import Mathlib.Data.List.DropRight
import Spine.Base.Splitting
import Spine.Poller.ErrorReport

/-!
# The warnings of the error buffer

`buffer_output_errors` of `poller/poller.c` logs its list when the next id does
not fit, and once more for every flush.  The separator of an entry is chosen
before the function knows that the entry starts a new list.

* `listedIds` reads a list back: the numbers between the commas.
* `Grouped` is the invariant: the ids so far fall into the lists that were logged
  and the list in the buffer.
* `bufferIds_grouped` keeps it over any sequence of ids, and flushes only add
  warnings with the list in the buffer.
-/

namespace Spine

open Base.CString Base.Splitting

/-! ## Reading a list back -/

/-- The ids that a list names. -/
def listedIds (list : Text) : List Int32 := (tokens (· == 44) list).map atoi

theorem decimalInt_ne_nil (i : Int) : decimalInt i ≠ [] := by
  have hdecimal := decimal_ne_nil i.natAbs
  unfold decimalInt
  split
  · exact List.append_ne_nil_of_right_ne_nil _ hdecimal
  · exact hdecimal

/-- A text without a comma names one id. -/
theorem listedIds_of_notMem {entry : Text} (hne : entry ≠ []) (h : (44 : UInt8) ∉ entry) :
    listedIds entry = [atoi entry] := by
  unfold listedIds
  rw [tokens_of_forall hne]
  · rfl
  · intro b hb
    rw [beq_eq_false_iff_ne]
    exact fun hcomma => h (hcomma ▸ hb)

/-- The list of some ids names these ids. -/
theorem listedIds_idList (ids : List Int32) : listedIds (idList ids) = ids := by
  induction ids using List.reverseRecOn with
  | nil => rfl
  | append_singleton ids id ih =>
    have hcomma : (44 : UInt8) ∉ decimalInt id.toInt :=
      notMem_decimalInt (by decide) (by decide) id.toInt
    rw [idList_concat]
    unfold idEntry
    split
    · -- The entry comes after a comma and a blank.
      have hentry : listedIds (32 :: decimalInt id.toInt) = [id] := by
        rw [listedIds_of_notMem (List.cons_ne_nil _ _), atoi_cons_space (by decide),
          atoi_decimalInt]
        rw [List.mem_cons, not_or]
        exact ⟨by decide, hcomma⟩
      show listedIds (idList ids ++ 44 :: 32 :: decimalInt id.toInt) = ids ++ [id]
      unfold listedIds at ih hentry ⊢
      rw [tokens_append_cons _ (by rfl), List.map_append, ih, hentry]
    · rename_i hfirst
      have hnil : ids = [] := List.eq_nil_of_length_eq_zero (by omega)
      rw [hnil, List.nil_append]
      show listedIds (decimalInt id.toInt) = [id]
      rw [listedIds_of_notMem (decimalInt_ne_nil _) hcomma, atoi_decimalInt]

/-! ## Groups -/

/-- The lists in `groups` were logged with their numbers, and the buffer lists
`current`. -/
structure ErrorContext.Grouped (context : ErrorContext) (groups : List (List Int32))
    (current : List Int32) : Prop where
  valid : context.Valid
  buffer_eq : context.buffer = idList current
  count_eq : context.count = current.length
  warnings_eq : context.warnings = groups.map fun group => (group.length, idList group)

theorem ErrorContext.start_grouped (errors : Int) :
    (ErrorContext.start errors).Grouped [] [] :=
  ⟨ErrorContext.start_valid errors, rfl, rfl, rfl⟩

section Step

variable {context : ErrorContext} {groups : List (List Int32)} {current : List Int32}

/-- An id joins the list in the buffer, or it closes that list and starts the
next one. -/
theorem ErrorContext.Grouped.bufferOutputErrors (h : context.Grouped groups current)
    (localDataId : Int32) :
    (bufferOutputErrors context localDataId false).Grouped groups (current ++ [localDataId]) ∨
      (bufferOutputErrors context localDataId false).Grouped (groups ++ [current])
        [localDataId] := by
  have hvalid := bufferOutputErrors_valid localDataId h.valid
  by_cases hfits : (context.buffer ++ idEntry context.count localDataId).length < DBL_BUFSIZE
  · left
    rw [bufferOutputErrors_of_lt localDataId h.valid hfits] at hvalid ⊢
    refine ⟨hvalid, ?_, ?_, h.warnings_eq⟩
    · show context.buffer ++ idEntry context.count localDataId = _
      rw [idList_concat, h.buffer_eq, h.count_eq]
    · show context.count + 1 = _
      rw [h.count_eq, List.length_append, List.length_singleton]
  · right
    rw [bufferOutputErrors_of_le localDataId h.valid (not_lt.1 hfits)] at hvalid ⊢
    refine ⟨hvalid, ?_, rfl, ?_⟩
    · show decimalInt localDataId.toInt = idList [localDataId]
      rw [← List.nil_append [localDataId], idList_concat]
      rfl
    · show context.warnings ++ [(context.count, context.buffer)] = _
      rw [List.map_append, h.warnings_eq, h.count_eq, h.buffer_eq]
      rfl

/-- A flush logs the list in the buffer, if there is one, and changes nothing
else. -/
theorem bufferOutputErrors_flush (context : ErrorContext) (localDataId : Int32) :
    bufferOutputErrors context localDataId true =
      { context with
        warnings := context.warnings ++
          if 0 < context.count then [(context.count, context.buffer)] else [] } := by
  unfold bufferOutputErrors
  by_cases hcount : 0 < context.count
  · dsimp only
    rw [if_pos (by simp [hcount]), if_pos hcount]
  · dsimp only
    rw [if_neg (by simp [hcount]), if_neg (by simp), if_neg hcount, List.append_nil]

end Step

/-! ## Runs -/

/-- Calls without flush. -/
def bufferIds (errors : Int) (ids : List Int32) : ErrorContext :=
  ids.foldl (fun context id => bufferOutputErrors context id false) (.start errors)

/-- Calls with flush.  The function does not read the id then. -/
def flushIds (context : ErrorContext) (ids : List Int32) : ErrorContext :=
  ids.foldl (fun context id => bufferOutputErrors context id true) context

/-- The groups are the ids, in order. -/
theorem bufferIds_grouped (errors : Int) (ids : List Int32) :
    ∃ groups current, (bufferIds errors ids).Grouped groups current ∧
      groups.flatten ++ current = ids := by
  induction ids using List.reverseRecOn with
  | nil => exact ⟨[], [], ErrorContext.start_grouped errors, rfl⟩
  | append_singleton ids id ih =>
    obtain ⟨groups, current, hgrouped, hids⟩ := ih
    have hrun : bufferIds errors (ids ++ [id]) =
        bufferOutputErrors (bufferIds errors ids) id false := by
      unfold bufferIds
      rw [List.foldl_append]
      rfl
    rw [hrun]
    rcases hgrouped.bufferOutputErrors id with hjoined | hstarted
    · exact ⟨groups, current ++ [id], hjoined, by rw [← List.append_assoc, hids]⟩
    · refine ⟨groups ++ [current], [id], hstarted, ?_⟩
      rw [List.flatten_append, List.flatten_singleton, hids]

/-- Flushes add warnings with the list in the buffer. -/
theorem flushIds_eq (context : ErrorContext) (ids : List Int32) :
    ∃ repeated : List (Nat × Text),
      (∀ warning ∈ repeated, warning = (context.count, context.buffer)) ∧
      flushIds context ids = { context with warnings := context.warnings ++ repeated } := by
  induction ids using List.reverseRecOn with
  | nil => exact ⟨[], fun _ h => absurd h List.not_mem_nil, by rw [List.append_nil]; rfl⟩
  | append_singleton ids id ih =>
    obtain ⟨repeated, hrepeated, hrun⟩ := ih
    have hnext : flushIds context (ids ++ [id]) =
        bufferOutputErrors (flushIds context ids) id true := by
      unfold flushIds
      rw [List.foldl_append]
      rfl
    rw [hnext, bufferOutputErrors_flush, hrun]
    refine ⟨repeated ++ if 0 < context.count then [(context.count, context.buffer)] else [],
      fun warning hwarning => ?_, by simp only [List.append_assoc]⟩
    rcases List.mem_append.1 hwarning with hold | hnew
    · exact hrepeated warning hold
    · split at hnew
      · exact List.mem_singleton.1 hnew
      · exact absurd hnew List.not_mem_nil

/-- After any ids without flush and any flushes, the size is the length of the
buffer, the buffer lists the last `count` ids, every warning carries the number
of the ids that it lists, and the ids of the warnings before the first flush with
the ids in the buffer are the ids given, in order. -/
theorem errorWarnings_exact (errors : Int) (ids flushed : List Int32) :
    (flushIds (bufferIds errors ids) flushed).size =
        (flushIds (bufferIds errors ids) flushed).buffer.length ∧
      (flushIds (bufferIds errors ids) flushed).buffer.length < DBL_BUFSIZE ∧
      (flushIds (bufferIds errors ids) flushed).count ≤ ids.length ∧
      (flushIds (bufferIds errors ids) flushed).buffer =
        idList (ids.rtake (flushIds (bufferIds errors ids) flushed).count) ∧
      (∀ warning ∈ (flushIds (bufferIds errors ids) flushed).warnings,
        warning.1 = (listedIds warning.2).length ∧ warning.2 = idList (listedIds warning.2)) ∧
      ((bufferIds errors ids).warnings.flatMap fun warning => listedIds warning.2) ++
        listedIds (flushIds (bufferIds errors ids) flushed).buffer = ids := by
  obtain ⟨groups, current, hgrouped, hids⟩ := bufferIds_grouped errors ids
  obtain ⟨repeated, hrepeated, hflush⟩ := flushIds_eq (bufferIds errors ids) flushed
  have hlast : ids.rtake current.length = current := by
    rw [← hids, List.rtake_eq_reverse_take_reverse, List.reverse_append, List.take_left' (by simp),
      List.reverse_reverse]
  have hcount : current.length ≤ ids.length := by
    rw [← hids, List.length_append]
    omega
  rw [hflush]
  generalize bufferIds errors ids = before at hgrouped hrepeated
  refine ⟨hgrouped.valid.size_eq, hgrouped.valid.fits, ?_, ?_, fun warning hwarning => ?_, ?_⟩
  · exact hgrouped.count_eq.symm ▸ hcount
  · show before.buffer = idList (ids.rtake before.count)
    rw [hgrouped.count_eq, hgrouped.buffer_eq, hlast]
  · have hlist : ∃ group, warning = (group.length, idList group) := by
      rcases List.mem_append.1 hwarning with hold | hnew
      · rw [hgrouped.warnings_eq] at hold
        obtain ⟨group, -, hgroup⟩ := List.mem_map.1 hold
        exact ⟨group, hgroup.symm⟩
      · refine ⟨current, ?_⟩
        rw [hrepeated warning hnew, hgrouped.count_eq, hgrouped.buffer_eq]
    obtain ⟨group, rfl⟩ := hlist
    rw [listedIds_idList]
    exact ⟨rfl, rfl⟩
  · show before.warnings.flatMap (fun warning => listedIds warning.2) ++
      listedIds before.buffer = ids
    rw [hgrouped.warnings_eq, hgrouped.buffer_eq, listedIds_idList, List.flatMap_map]
    simp only [listedIds_idList, List.flatMap_id']
    exact hids

end Spine
