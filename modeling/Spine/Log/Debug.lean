import Spine.Base.CString
import Spine.Base.Splitting

/-!
# The debug device list

The functions of `log/debug.c`.  `parse_debug_devices` stores the numbers of a
comma-separated list in an array and ends them with a zero, and
`is_debug_device` looks for an id up to the first zero.

* `parseDebugDevices_eq`: the array holds the values of the first tokens, as many
  as leave room for the zero.
* `isDebugDevice_parseDebugDevices`: the ids that are found are the values before
  the first zero.  A token without a number has the value zero, so it ends the
  list for the reader although the writer goes on.
-/

namespace Spine

open Base.CString Base.Splitting

def MAX_DEBUG_DEVICES : Nat := 100

/-! ## The functions -/

/-- The loop of `parse_debug_devices` at index `i`, with room for `room` more
devices. -/
def fillDevices : (room : Nat) → (deviceList : Text) → (devices : List Int32) → (i : Nat) →
    List Int32
  | 0, _, devices, _ => devices
  | room + 1, deviceList, devices, i =>
    match nextToken (· == 44) deviceList with
    | none => devices
    | some (token, rest) =>
      fillDevices room rest ((devices.set i (atoi token)).set (i + 1) 0) (i + 1)

/-- `parse_debug_devices`. -/
def parseDebugDevices (deviceList : Text) (devices : List Int32) (capacity : Nat) : List Int32 :=
  if capacity = 0 then devices else fillDevices (capacity - 1) deviceList (devices.set 0 0) 0

/-- The loop of `is_debug_device`. -/
def scanDevices (deviceId : Int32) : List Int32 → Bool
  | [] => false
  | device :: rest =>
    if device = 0 then false
    else if device = deviceId then true
    else scanDevices deviceId rest

/-- `is_debug_device`.  `none` is the array after shutdown released it. -/
def isDebugDevice (debugDevices : Option (List Int32)) (deviceId : Int32) : Bool :=
  match debugDevices with
  | none => false
  | some devices => scanDevices deviceId (devices.take MAX_DEBUG_DEVICES)

/-! ## The array -/

/-- The values of the tokens that fit an array. -/
def deviceValues (deviceList : Text) (capacity : Nat) : List Int32 :=
  ((tokens (· == 44) deviceList).take (capacity - 1)).map atoi

/-- The values are stored in order after what is there, and a zero follows. -/
theorem fillDevices_eq (room : Nat) (deviceList : Text) (done rest : List Int32)
    (hroom : room ≤ rest.length) :
    fillDevices room deviceList (done ++ 0 :: rest) done.length =
      done ++ deviceValues deviceList (room + 1) ++
        0 :: rest.drop (deviceValues deviceList (room + 1)).length := by
  unfold deviceValues
  induction room generalizing deviceList done rest with
  | zero => simp [fillDevices]
  | succ room ih =>
    unfold fillDevices
    rw [tokens_eq_of_nextToken]
    cases nextToken (· == 44) deviceList with
    | none => simp
    | some found =>
      obtain ⟨token, after⟩ := found
      obtain ⟨next, rest, rfl⟩ : ∃ next tail, rest = next :: tail :=
        List.exists_cons_of_length_pos (by omega)
      rw [List.length_cons] at hroom
      have hstore : ((done ++ 0 :: next :: rest).set done.length (atoi token)).set
          (done.length + 1) 0 = (done ++ [atoi token]) ++ 0 :: rest := by
        rw [List.set_append_right _ _ (Nat.le_refl _), Nat.sub_self,
          List.set_append_right _ _ (by omega), Nat.add_sub_cancel_left]
        simp
      have hlength : done.length + 1 = (done ++ [atoi token]).length := by simp
      dsimp only
      rw [hstore, hlength, ih after (done ++ [atoi token]) rest (by omega)]
      simp

/-- `parse_debug_devices` on an array that has the capacity it is told. -/
theorem parseDebugDevices_eq (deviceList : Text) {devices : List Int32} {capacity : Nat}
    (hcapacity : 0 < capacity) (hlength : devices.length = capacity) :
    parseDebugDevices deviceList devices capacity =
      deviceValues deviceList capacity ++
        0 :: devices.drop ((deviceValues deviceList capacity).length + 1) := by
  obtain ⟨first, rest, rfl⟩ : ∃ first rest, devices = first :: rest :=
    List.exists_cons_of_length_pos (by omega)
  rw [List.length_cons] at hlength
  have hfill := fillDevices_eq (capacity - 1) deviceList [] rest (by omega)
  have hroom : capacity - 1 + 1 = capacity := by omega
  rw [hroom] at hfill
  unfold parseDebugDevices
  rw [if_neg (by omega)]
  exact hfill

/-! ## The search -/

/-- The search sees what stands before the first zero. -/
theorem scanDevices_iff (deviceId : Int32) (devices : List Int32) :
    scanDevices deviceId devices = true ↔ deviceId ∈ devices.takeWhile (· ≠ 0) := by
  induction devices with
  | nil => simp [scanDevices]
  | cons device rest ih =>
    unfold scanDevices
    by_cases hzero : device = 0
    · rw [if_pos hzero, List.takeWhile_cons_of_neg (by simp [hzero])]
      simp
    · rw [if_neg hzero, List.takeWhile_cons_of_pos (by simp [hzero]), List.mem_cons]
      by_cases hfound : device = deviceId
      · rw [if_pos hfound]
        simp [hfound]
      · rw [if_neg hfound, ih]
        simp [Ne.symm hfound]

theorem deviceValues_length_lt (deviceList : Text) {capacity : Nat} (hcapacity : 0 < capacity) :
    (deviceValues deviceList capacity).length < capacity := by
  unfold deviceValues
  rw [List.length_map, List.length_take]
  omega

/-- The ids that are found after a list was parsed. -/
theorem isDebugDevice_parseDebugDevices (deviceList : Text) {devices : List Int32}
    (hlength : devices.length = MAX_DEBUG_DEVICES) (deviceId : Int32) :
    isDebugDevice (some (parseDebugDevices deviceList devices MAX_DEBUG_DEVICES)) deviceId = true ↔
      deviceId ∈ (deviceValues deviceList MAX_DEBUG_DEVICES).takeWhile (· ≠ 0) := by
  have hcapacity : 0 < MAX_DEBUG_DEVICES := by decide
  have hvalues := deviceValues_length_lt deviceList hcapacity
  unfold isDebugDevice
  dsimp only
  rw [parseDebugDevices_eq deviceList hcapacity hlength, scanDevices_iff, List.take_append,
    List.take_of_length_le (by omega), List.takeWhile_append]
  obtain ⟨room, hroom⟩ : ∃ room, MAX_DEBUG_DEVICES -
      (deviceValues deviceList MAX_DEBUG_DEVICES).length = room + 1 :=
    Nat.exists_eq_succ_of_ne_zero (by omega)
  rw [hroom, List.take_succ_cons, List.takeWhile_cons_of_neg (by simp), List.append_nil]
  split
  · rename_i hwhole
    rw [(List.takeWhile_prefix _).eq_of_length hwhole]
  · rfl

/-- An id is found exactly when it is listed, if and only if a listed id is also
listed before the first token of value zero. -/
theorem isDebugDevice_listed_iff (deviceList : Text) {devices : List Int32}
    (hlength : devices.length = MAX_DEBUG_DEVICES) (deviceId : Int32) :
    ((isDebugDevice (some (parseDebugDevices deviceList devices MAX_DEBUG_DEVICES)) deviceId =
          true) ↔
        ∃ token ∈ (tokens (· == 44) deviceList).take (MAX_DEBUG_DEVICES - 1),
          atoi token = deviceId) ↔
      (deviceId ∈ deviceValues deviceList MAX_DEBUG_DEVICES →
        deviceId ∈ (deviceValues deviceList MAX_DEBUG_DEVICES).takeWhile (· ≠ 0)) := by
  rw [isDebugDevice_parseDebugDevices deviceList hlength]
  have hlisted : deviceId ∈ deviceValues deviceList MAX_DEBUG_DEVICES ↔
      ∃ token ∈ (tokens (· == 44) deviceList).take (MAX_DEBUG_DEVICES - 1),
        atoi token = deviceId := List.mem_map
  rw [← hlisted]
  constructor
  · intro h
    exact h.2
  · intro h
    exact ⟨fun hbefore => List.takeWhile_subset _ hbefore, h⟩

/-- The array as `calloc` leaves it. -/
private def zeroDevices : List Int32 := List.replicate MAX_DEBUG_DEVICES 0

/-- A list of two ids. -/
theorem isDebugDevice_listed_two :
    deviceValues (lit "5,7") MAX_DEBUG_DEVICES = [5, 7] ∧
      (isDebugDevice (some (parseDebugDevices (lit "5,7") zeroDevices MAX_DEBUG_DEVICES)) 7 =
          true ↔
        ∃ token ∈ (tokens (· == 44) (lit "5,7")).take (MAX_DEBUG_DEVICES - 1),
          atoi token = 7) :=
  ⟨by decide, (isDebugDevice_listed_iff (lit "5,7") (by decide) 7).2 (by decide)⟩

/-- A token without a number hides the ids after it. -/
theorem isDebugDevice_hidden :
    isDebugDevice (some (parseDebugDevices (lit "5,abc,7") zeroDevices MAX_DEBUG_DEVICES)) 7 =
        false ∧
      ∃ token ∈ (tokens (· == 44) (lit "5,abc,7")).take (MAX_DEBUG_DEVICES - 1),
        atoi token = 7 :=
  ⟨by decide, lit "7", by decide, by decide⟩

end Spine
