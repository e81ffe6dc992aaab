import Spine.App.Text
import Spine.Base.Splitting

/-!
# The list of hosts on the command line

`parse_host_list` of `app/cli.c` reads the argument of `-H`, checks it, and writes
the numbers in it to `host_id_list` in canonical form.  The queries take the list
as it stands there.

* `scanHost` is one turn of the loop up to the check of what follows the number,
  and `hostListFrom` is the loop.  `none` is the call of `die`.
* `HostEntry` is a number of the list with the white space around it, and
  `IsHostList` is the grammar of the argument with the list that it denotes.
* `parseHostList_iff`: the function accepts exactly the texts of the grammar that
  are shorter than the list, and produces the list that they denote.  The
  canonical form of a number is never longer than the number, so the output fits
  wherever the input did.
-/

namespace Spine

open Base.CString Base.Splitting

def ULONG_MAX : Nat := 2 ^ 64 - 1

/-! ## The function -/

/-- One turn of the loop: the number at the cursor, and what follows it from the
end of the text or the comma on.  `strtoul` stops at `ULONG_MAX`. -/
def scanHost (cursor : Text) : Option (Nat × Text) :=
  let number := cursor.dropWhile isSpace
  if number.head?.any isDigit then
    let value := digitsValue (number.takeWhile isDigit)
    let id := min ULONG_MAX value
    if ULONG_MAX < value ∨ INT_MAX < id then none
    else
      match (number.dropWhile isDigit).dropWhile isSpace with
      | [] => some (id, [])
      | b :: rest => if b = 44 then some (id, b :: rest) else none
  else none

/-! ## Numbers -/

/-- A number with the white space around it. -/
structure HostEntry where
  before : Text
  digits : Text
  after : Text
  isSpace_before : ∀ b ∈ before, isSpace b = true
  digits_ne_nil : digits ≠ []
  isDigit_digits : ∀ b ∈ digits, isDigit b = true
  isSpace_after : ∀ b ∈ after, isSpace b = true
  value_le : digitsValue digits ≤ INT_MAX

namespace HostEntry

def text (entry : HostEntry) : Text := entry.before ++ (entry.digits ++ entry.after)

def value (entry : HostEntry) : Nat := digitsValue entry.digits

end HostEntry

/-- What may follow a number: the end, or a comma. -/
def EndsEntry (rest : Text) : Prop := rest = [] ∨ ∃ more, rest = 44 :: more

theorem EndsEntry.not_isSpace {rest : Text} (h : EndsEntry rest) :
    ∀ b ∈ rest.head?, isSpace b = false := by
  intro b hb
  rcases h with rfl | ⟨more, rfl⟩
  · cases hb
  · cases hb
    rfl

/-- White space and what ends an entry start with no digit. -/
theorem HostEntry.not_isDigit_after (entry : HostEntry) {rest : Text} (h : EndsEntry rest) :
    ∀ b ∈ (entry.after ++ rest).head?, isDigit b = false := by
  intro b hb
  have hspace := entry.isSpace_after
  cases hafter : entry.after with
  | nil =>
    rw [hafter, List.nil_append] at hb
    rcases h with rfl | ⟨more, rfl⟩
    · cases hb
    · cases hb
      rfl
  | cons c after =>
    rw [hafter] at hb hspace
    cases hb
    rw [← Bool.not_eq_true]
    intro hdigit
    have hboth := hspace b List.mem_cons_self
    rw [isSpace_of_isDigit hdigit] at hboth
    cases hboth

/-- The number at the cursor as an entry of the grammar. -/
theorem exists_hostEntry {cursor : Text}
    (hdigit : (cursor.dropWhile isSpace).head?.any isDigit = true)
    (hvalue : digitsValue ((cursor.dropWhile isSpace).takeWhile isDigit) ≤ INT_MAX) :
    ∃ entry : HostEntry,
      cursor = entry.text ++ ((cursor.dropWhile isSpace).dropWhile isDigit).dropWhile isSpace ∧
      entry.value = digitsValue ((cursor.dropWhile isSpace).takeWhile isDigit) := by
  have hne : (cursor.dropWhile isSpace).takeWhile isDigit ≠ [] := by
    cases hnumber : cursor.dropWhile isSpace with
    | nil =>
      rw [hnumber] at hdigit
      cases hdigit
    | cons b number =>
      rw [hnumber] at hdigit
      rw [List.takeWhile_cons_of_pos (by simpa using hdigit)]
      exact List.cons_ne_nil _ _
  refine ⟨⟨cursor.takeWhile isSpace, (cursor.dropWhile isSpace).takeWhile isDigit,
    ((cursor.dropWhile isSpace).dropWhile isDigit).takeWhile isSpace,
    fun _ hb => List.mem_takeWhile_imp hb, hne, fun _ hb => List.mem_takeWhile_imp hb,
    fun _ hb => List.mem_takeWhile_imp hb, hvalue⟩, ?_, rfl⟩
  show cursor = (cursor.takeWhile isSpace ++ ((cursor.dropWhile isSpace).takeWhile isDigit ++
    ((cursor.dropWhile isSpace).dropWhile isDigit).takeWhile isSpace)) ++ _
  rw [List.append_assoc, List.append_assoc, List.takeWhile_append_dropWhile,
    List.takeWhile_append_dropWhile, List.takeWhile_append_dropWhile]

theorem HostEntry.exists_digit (entry : HostEntry) :
    ∃ d digits, entry.digits = d :: digits ∧ isDigit d = true := by
  obtain ⟨d, digits, hdigits⟩ := List.exists_cons_of_ne_nil entry.digits_ne_nil
  exact ⟨d, digits, hdigits, entry.isDigit_digits d (by rw [hdigits]; exact List.mem_cons_self)⟩

theorem HostEntry.dropWhile_isSpace_text (entry : HostEntry) (rest : Text) :
    (entry.text ++ rest).dropWhile isSpace = entry.digits ++ (entry.after ++ rest) := by
  obtain ⟨d, digits, hdigits, hdigit⟩ := entry.exists_digit
  unfold text
  rw [List.append_assoc, List.append_assoc]
  refine dropWhile_run entry.isSpace_before fun b hb => ?_
  rw [hdigits] at hb
  cases hb
  exact isSpace_of_isDigit hdigit

/-- An entry of the grammar is read whole. -/
theorem scanHost_text (entry : HostEntry) {rest : Text} (hend : EndsEntry rest) :
    scanHost (entry.text ++ rest) = some (entry.value, rest) := by
  have hmax : INT_MAX < ULONG_MAX := by decide
  have hvalue := entry.value_le
  have hhead : (entry.digits ++ (entry.after ++ rest)).head?.any isDigit = true := by
    obtain ⟨d, digits, hdigits, hdigit⟩ := entry.exists_digit
    rw [hdigits]
    exact hdigit
  unfold scanHost
  dsimp only
  rw [entry.dropWhile_isSpace_text, if_pos hhead,
    takeWhile_run entry.isDigit_digits (entry.not_isDigit_after hend),
    dropWhile_run entry.isDigit_digits (entry.not_isDigit_after hend),
    dropWhile_run entry.isSpace_after hend.not_isSpace, if_neg (by omega),
    Nat.min_eq_right (by omega)]
  rcases hend with rfl | ⟨more, rfl⟩
  · rfl
  · exact if_pos rfl

/-- A turn of the loop finds a number of the grammar and stops at its end. -/
theorem scanHost_iff {cursor rest : Text} {id : Nat} :
    scanHost cursor = some (id, rest) ↔
      EndsEntry rest ∧ ∃ entry : HostEntry, cursor = entry.text ++ rest ∧ id = entry.value := by
  constructor
  · intro h
    have hmax : INT_MAX < ULONG_MAX := by decide
    unfold scanHost at h
    dsimp only at h
    split at h
    · rename_i hdigit
      split at h
      · cases h
      rename_i hrange
      obtain ⟨entry, hsplit, hvalue⟩ := exists_hostEntry hdigit (by omega)
      have hid : min ULONG_MAX (digitsValue ((cursor.dropWhile isSpace).takeWhile isDigit)) =
          entry.value := by omega
      split at h
      · rename_i hend
        rw [hend] at hsplit
        cases h
        exact ⟨Or.inl rfl, entry, hsplit, hid⟩
      · rename_i b more hend
        split at h
        · rename_i hcomma
          rw [hend] at hsplit
          cases h
          exact ⟨Or.inr ⟨more, by rw [hcomma]⟩, entry, hsplit, hid⟩
        · cases h
    · cases h
  · intro h
    obtain ⟨hend, entry, rfl, rfl⟩ := h
    exact scanHost_text entry hend

/-! ## The loop -/

theorem HostEntry.text_length_pos (entry : HostEntry) : 0 < entry.text.length := by
  have hdigits := List.length_pos_of_ne_nil entry.digits_ne_nil
  unfold text
  rw [List.length_append, List.length_append]
  omega

theorem scanHost_length_lt {cursor rest : Text} {id : Nat} (h : scanHost cursor = some (id, rest)) :
    rest.length < cursor.length := by
  obtain ⟨-, entry, rfl, -⟩ := scanHost_iff.1 h
  have hpos := entry.text_length_pos
  rw [List.length_append]
  omega

/-- `spine_snprintf` of one more number to the end of the list. -/
def appendHost (hostIdList : Text) (id : Nat) : Option Text :=
  appendText BIG_BUFSIZE hostIdList ((if hostIdList.length = 0 then [] else lit ",") ++ decimal id)

/-- The loop of `parse_host_list`. -/
def hostListFrom (cursor hostIdList : Text) : Option Text :=
  match _h : scanHost cursor with
  | none => none
  | some (id, rest) =>
    match appendHost hostIdList id with
    | none => none
    | some hostIdList =>
      match rest with
      | [] => some hostIdList
      | _ :: cursor => hostListFrom cursor hostIdList
termination_by cursor.length
decreasing_by
  have hlt := scanHost_length_lt _h
  rw [List.length_cons] at hlt
  omega

/-- One turn of the loop that succeeds. -/
theorem hostListFrom_of_scanHost {cursor rest hostIdList longer : Text} {id : Nat}
    (hscan : scanHost cursor = some (id, rest)) (happend : appendHost hostIdList id = some longer) :
    hostListFrom cursor hostIdList =
      match rest with
      | [] => some longer
      | _ :: cursor => hostListFrom cursor longer := by
  rw [hostListFrom]
  split
  · rename_i hnone
    rw [hscan] at hnone
    cases hnone
  · rename_i found hfound
    rw [hscan] at hfound
    cases hfound
    rw [happend]

/-- `parse_host_list`. -/
def parseHostList (input : Text) : Option Text :=
  if BIG_BUFSIZE ≤ input.length then none else hostListFrom input []

/-- The argument is one or more numbers with a comma between them, and the list is
their canonical forms with a comma between them. -/
def IsHostList (input hostIdList : Text) : Prop :=
  ∃ entries : List HostEntry, entries ≠ [] ∧
    input = [44].intercalate (entries.map HostEntry.text) ∧
    hostIdList = [44].intercalate (entries.map fun entry => decimal entry.value)

/-- What stands before the next entry of a list. -/
def separator (hostIdList : Text) : Text := if hostIdList.length = 0 then [] else [44]

theorem appendHost_eq_some {hostIdList out : Text} {id : Nat}
    (h : appendHost hostIdList id = some out) :
    out = hostIdList ++ (separator hostIdList ++ decimal id) :=
  appendText_eq_some h

theorem separator_append_decimal (hostIdList : Text) (id : Nat) :
    separator (hostIdList ++ (separator hostIdList ++ decimal id)) = [44] := by
  have hpos := List.length_pos_of_ne_nil (decimal_ne_nil id)
  refine if_neg ?_
  rw [List.length_append, List.length_append]
  omega

/-- What the loop accepts is a list of the grammar. -/
theorem hostListFrom_sound {cursor hostIdList out : Text}
    (h : hostListFrom cursor hostIdList = some out) :
    ∃ list, IsHostList cursor list ∧ out = hostIdList ++ (separator hostIdList ++ list) := by
  fun_induction hostListFrom cursor hostIdList with
  | case1 cursor hostIdList hscan => cases h
  | case2 cursor hostIdList id rest hscan happend => cases h
  | case3 cursor hostIdList id longer happend hscan =>
    cases h
    obtain ⟨-, entry, hcursor, hid⟩ := scanHost_iff.1 hscan
    refine ⟨decimal id, ⟨[entry], List.cons_ne_nil _ _, ?_, ?_⟩, appendHost_eq_some happend⟩
    · rw [hcursor, List.append_nil]
      simp
    · rw [hid]
      simp
  | case4 cursor hostIdList id longer happend b rest hscan hmore ih =>
    obtain ⟨list, ⟨entries, hne, hrest, hlist⟩, hout⟩ := ih h
    obtain ⟨hend, entry, hcursor, hid⟩ := scanHost_iff.1 hscan
    have hcomma : b = 44 := by
      rcases hend with hnil | ⟨more, hcons⟩
      · cases hnil
      · exact (List.cons.inj hcons).1
    have hlonger := appendHost_eq_some happend
    rw [hlonger, separator_append_decimal] at hout
    refine ⟨decimal id ++ ([44] ++ list), ⟨entry :: entries, List.cons_ne_nil _ _, ?_, ?_⟩, ?_⟩
    · rw [List.map_cons, List.intercalate_cons_of_ne_nil (by simpa using hne), hcursor, hcomma,
        hrest]
      simp
    · rw [List.map_cons, List.intercalate_cons_of_ne_nil (by simpa using hne), hid, hlist]
      simp
    · rw [hout]
      simp only [List.append_assoc]

/-! ## The list fits -/

theorem HostEntry.decimal_length_le (entry : HostEntry) :
    (decimal entry.value).length ≤ entry.text.length := by
  have hdigits := decimal_digitsValue_length_le entry.digits_ne_nil entry.isDigit_digits
  unfold value text
  rw [List.length_append, List.length_append]
  omega

theorem appendHost_of_lt {hostIdList : Text} {id : Nat}
    (h : (hostIdList ++ (separator hostIdList ++ decimal id)).length < BIG_BUFSIZE) :
    appendHost hostIdList id = some (hostIdList ++ (separator hostIdList ++ decimal id)) :=
  appendText_of_lt h

/-- The loop accepts every list of the grammar.  What it has written is never
longer than what it has read, so it does not leave the buffer. -/
theorem hostListFrom_complete {entries : List HostEntry} (hne : entries ≠ []) {hostIdList : Text}
    (hfits : (hostIdList ++ (separator hostIdList ++
      [44].intercalate (entries.map HostEntry.text))).length < BIG_BUFSIZE) :
    hostListFrom ([44].intercalate (entries.map HostEntry.text)) hostIdList =
      some (hostIdList ++ (separator hostIdList ++
        [44].intercalate (entries.map fun entry => decimal entry.value))) := by
  induction entries generalizing hostIdList with
  | nil => exact absurd rfl hne
  | cons entry entries ih =>
    have hdecimal := entry.decimal_length_le
    by_cases hlast : entries = []
    · subst hlast
      simp only [List.map_cons, List.map_nil, List.intercalate_singleton] at hfits ⊢
      have hscan : scanHost entry.text = some (entry.value, []) :=
        scanHost_iff.2 ⟨Or.inl rfl, entry, (List.append_nil _).symm, rfl⟩
      have hroom : (hostIdList ++ (separator hostIdList ++ decimal entry.value)).length <
          BIG_BUFSIZE := by
        simp only [List.length_append] at hfits ⊢
        omega
      exact hostListFrom_of_scanHost hscan (appendHost_of_lt hroom)
    · have htexts : entries.map HostEntry.text ≠ [] := by simpa using hlast
      have hvalues : (entries.map fun entry => decimal entry.value) ≠ [] := by simpa using hlast
      rw [List.map_cons, List.intercalate_cons_of_ne_nil htexts] at hfits ⊢
      rw [List.map_cons, List.intercalate_cons_of_ne_nil hvalues]
      have hscan : scanHost (entry.text ++ [44] ++ [44].intercalate (entries.map HostEntry.text)) =
          some (entry.value, 44 :: [44].intercalate (entries.map HostEntry.text)) :=
        scanHost_iff.2 ⟨Or.inr ⟨_, rfl⟩, entry, by simp, rfl⟩
      have hroom : (hostIdList ++ (separator hostIdList ++ decimal entry.value)).length <
          BIG_BUFSIZE := by
        simp only [List.length_append] at hfits ⊢
        omega
      rw [hostListFrom_of_scanHost hscan (appendHost_of_lt hroom)]
      dsimp only
      rw [ih hlast, separator_append_decimal]
      · simp only [List.append_assoc]
      · rw [separator_append_decimal]
        simp only [List.length_append] at hfits ⊢
        omega

/-- The function accepts exactly the texts of the grammar that are shorter than
the list. -/
theorem parseHostList_iff {input hostIdList : Text} :
    parseHostList input = some hostIdList ↔
      input.length < BIG_BUFSIZE ∧ IsHostList input hostIdList := by
  unfold parseHostList
  by_cases hlong : BIG_BUFSIZE ≤ input.length
  · rw [if_pos hlong]
    constructor
    · intro h
      cases h
    · intro h
      omega
  · rw [if_neg hlong]
    constructor
    · intro h
      obtain ⟨list, hlist, hout⟩ := hostListFrom_sound h
      rw [hout]
      exact ⟨by omega, hlist⟩
    · rintro ⟨hshort, entries, hne, rfl, rfl⟩
      exact hostListFrom_complete hne hshort

/-- A list is never longer than the argument that it was written from. -/
theorem IsHostList.length_le {input hostIdList : Text} (h : IsHostList input hostIdList) :
    hostIdList.length ≤ input.length := by
  obtain ⟨entries, -, rfl, rfl⟩ := h
  induction entries with
  | nil => exact Nat.le_refl _
  | cons entry entries ih =>
    have hdecimal := entry.decimal_length_le
    by_cases hlast : entries = []
    · subst hlast
      simpa using hdecimal
    · have htexts : entries.map HostEntry.text ≠ [] := by simpa using hlast
      have hvalues : (entries.map fun entry => decimal entry.value) ≠ [] := by simpa using hlast
      rw [List.map_cons, List.map_cons, List.intercalate_cons_of_ne_nil htexts,
        List.intercalate_cons_of_ne_nil hvalues]
      simp only [List.length_append]
      omega

/-- For every argument of `-H`: the process ends or the argument is of the grammar
and the list is what it denotes, every argument of the grammar that is shorter
than the list is accepted, and the list never outgrows its buffer. -/
theorem hostList_grammar (input : Text) :
    (parseHostList input = none ∨
        ∃ hostIdList, parseHostList input = some hostIdList ∧ IsHostList input hostIdList) ∧
      (∀ hostIdList, input.length < BIG_BUFSIZE → IsHostList input hostIdList →
        parseHostList input = some hostIdList) ∧
      ∀ hostIdList, parseHostList input = some hostIdList → hostIdList.length < BIG_BUFSIZE := by
  refine ⟨?_, fun hostIdList hshort hlist => parseHostList_iff.2 ⟨hshort, hlist⟩,
    fun hostIdList haccepted => ?_⟩
  · cases hresult : parseHostList input with
    | none => exact Or.inl rfl
    | some hostIdList => exact Or.inr ⟨hostIdList, rfl, (parseHostList_iff.1 hresult).2⟩
  · obtain ⟨hshort, hlist⟩ := parseHostList_iff.1 haccepted
    have hle := hlist.length_le
    omega

end Spine
