import Spine.Poller.ItemGroups

/-!
# The values that a collection stores

`normalize_poll_result` decides which texts are values.  The items of a
collection pass through it, and then through more steps: an output regex, two
copies into result buffers, and the spike kill.  This module follows the texts
to the rows that `write_poll_results` stores.

* The regex.  `regexReplace` is `regex_replace` over the functions of the
  regular expression library.
* The steps.  A text is `Whole` when it is the mark of an unknown value or a
  fixed point of the normalization.  Every step but the regex keeps that.
* The collection.  `collectPollItems_whole` says what every stored row holds.
  A row that is not whole is the part of a whole value that the item's own
  regex selects: the regex reads the value after the normalization, and what
  it selects is not normalized again.
-/

namespace Spine

open Base.CString

/-! ## The regex -/

/-- The regular expression library: whether `regcomp` takes an expression, and
the start and the end of the first match that `regexec` reports.  A match lies
in the text. -/
structure RegexLibrary where
  compiles : Text → Bool
  exec : Text → Text → Option (Nat × Nat)
  inside : ∀ {exp value : Text} {start stop : Nat}, exec exp value = some (start, stop) →
    start ≤ stop ∧ stop ≤ value.length

/-- `regex_replace`. -/
def regexReplace (lib : RegexLibrary) (exp value : Text) : Text :=
  if !lib.compiles exp then value
  else
    match lib.exec exp value with
    | none => value
    | some (start, stop) =>
      if RESULTS_BUFFER ≤ stop - start then value else (value.drop start).take (stop - start)

theorem regexReplace_length_le (lib : RegexLibrary) (exp value : Text) :
    (regexReplace lib exp value).length ≤ value.length := by
  unfold regexReplace
  split
  · exact le_rfl
  · split
    · exact le_rfl
    · split
      · exact le_rfl
      · rw [List.length_take, List.length_drop]
        omega

/-! ## The steps -/

theorem normalizeItem_whole (raw : Text) (snmp : Bool) : Whole (normalizeItem raw snmp).1 := by
  unfold normalizeItem
  dsimp only
  split
  · exact Or.inl rfl
  · exact normalizePollResult_whole raw snmp

theorem killSpike_eq (spikeKill : Bool) (text : Text) :
    killSpike spikeKill text = undefinedText ∨
      killSpike spikeKill text = text ∧
        (spikeKill = true → text = undefinedText ∨ (58 : UInt8) ∈ text) := by
  unfold killSpike
  split
  · exact Or.inl rfl
  · rename_i hkeep
    refine Or.inr ⟨rfl, fun hkill => ?_⟩
    rw [hkill] at hkeep
    by_cases hcolon : (58 : UInt8) ∈ text
    · exact Or.inr hcolon
    · refine Or.inl (isUndefined_iff.1 ?_)
      simpa [hcolon] using hkeep

theorem Whole.killSpike {text : Text} (h : Whole text) (spikeKill : Bool) :
    Whole (killSpike spikeKill text) := by
  cases killSpike_eq spikeKill text with
  | inl hkilled => exact Or.inl hkilled
  | inr hkept => rwa [hkept.1]

theorem scriptResult_whole {env : ItemEnv} {position : Nat} {item : Target} {text : Text}
    (h : scriptResult env position item = some text) : Whole text := by
  have hanswer : ∀ answer, Whole (scriptText env answer) := fun answer =>
    (normalizeItem_whole _ false).killSpike env.spikeKill
  unfold scriptResult at h
  split at h
  · exact Or.inl (Option.some.inj h).symm
  · split at h
    · exact Option.some.inj h ▸ hanswer _
    · split at h
      · cases h
      · exact Option.some.inj h ▸ hanswer _

/-- The text is the part of a whole value that the item's regex selects.  When
the counters were reset, it has several fields. -/
def RegexPart (lib : RegexLibrary) (spikeKill : Bool) (item : Target) (text : Text) : Prop :=
  item.action = .snmp ∧ item.outputRegex ≠ [] ∧ (spikeKill = true → (58 : UInt8) ∈ text) ∧
    ∃ value, Whole value ∧ text = regexReplace lib item.outputRegex value

/-- The text of an SNMP item. -/
theorem snmpResult_whole {env : ItemEnv} {lib : RegexLibrary} {item : Target}
    (hlib : env.answers.regexReplace = regexReplace lib) (haction : item.action = .snmp)
    (ignored : Bool) (raw : Text) :
    Whole (snmpResult env item ignored raw) ∨
      RegexPart lib env.spikeKill item (snmpResult env item ignored raw) := by
  unfold snmpResult
  dsimp only
  have hvalue : Whole (if ignored = true then undefinedText else (normalizeItem raw true).1) := by
    split
    · exact Or.inl rfl
    · exact normalizeItem_whole raw true
  generalize (if ignored = true then undefinedText else (normalizeItem raw true).1) = value
    at hvalue
  by_cases hregex : item.outputRegex ≠ []
  · -- Neither copy cuts the part, which is at most as long as the value.
    have hlength : (regexReplace lib item.outputRegex value).length < RESULTS_BUFFER :=
      lt_of_le_of_lt (regexReplace_length_le lib _ value) hvalue.length_lt
    rw [if_pos hregex, hlib, snprintfS_eq_self hlength, snprintfS_eq_self hlength]
    rcases killSpike_eq env.spikeKill (regexReplace lib item.outputRegex value) with
      hkilled | ⟨hkept, hcolon⟩
    · exact Or.inl (Or.inl hkilled)
    · rw [hkept]
      by_cases hundefined : regexReplace lib item.outputRegex value = undefinedText
      · exact Or.inl (Or.inl hundefined)
      · exact Or.inr ⟨haction, hregex, fun hkill => (hcolon hkill).resolve_left hundefined,
          value, hvalue, rfl⟩
  · rw [if_neg hregex, snprintfS_eq_self hvalue.length_lt]
    exact Or.inl (hvalue.killSpike env.spikeKill)

/-! ## The collection -/

/-- What a stored row holds. -/
def StoredValue (lib : RegexLibrary) (spikeKill : Bool) (item : Target) : Prop :=
  Whole item.result ∨ RegexPart lib spikeKill item item.result

theorem Collected.stored {env : ItemEnv} {lib : RegexLibrary} {items : List Target}
    {trace : ItemTrace} {rows : Nat} (h : Collected env items trace rows)
    (hlib : env.answers.regexReplace = regexReplace lib)
    (hresults : ∀ item ∈ items, item.result = undefinedText) {p : Nat} (hp : p < rows) :
    ∃ item, trace.loop.items[p]? = some item ∧ StoredValue lib env.spikeKill item := by
  have hbound : p < items.length := lt_of_lt_of_le hp h.bound
  have hitem : items[p]? = some items[p] := List.getElem?_eq_getElem hbound
  by_cases haction : items[p].action = .snmp
  · rcases h.snmp p hp _ hitem haction with
      ⟨_, _, call, _, _, _, hstored⟩ | ⟨_, _, _, hstored, hundefined⟩
    · exact ⟨_, hstored, snmpResult_whole hlib haction _ _⟩
    · exact ⟨_, hstored, Or.inl (Or.inl hundefined)⟩
  · cases hscript : items[p].isScript with
    | true =>
      obtain ⟨text, htext, hstored⟩ := h.scripts p hp _ hitem hscript
      exact ⟨_, hstored, Or.inl (scriptResult_whole htext)⟩
    | false =>
      have hundefined := hresults _ (List.getElem_mem hbound)
      exact ⟨_, h.others p _ hitem haction hscript, Or.inl (Or.inl hundefined)⟩

/-- Every row that a collection processed holds the mark of an unknown value,
or a text that the normalization accepts and leaves, or the part of such a text
that the output regex of its SNMP item selects. -/
theorem collectPollItems_whole (env : ItemEnv) (lib : RegexLibrary) (device : SnmpDevice)
    (items : List Target) (hlib : env.answers.regexReplace = regexReplace lib)
    (hmax : 1 ≤ env.maxOids) (hresults : ∀ item ∈ items, item.result = undefinedText)
    (loop : ItemLoop) (rows : Nat) (h : collectPollItems env device items = some (loop, rows)) :
    ∀ p < rows, ∃ item, loop.items[p]? = some item ∧ StoredValue lib env.spikeKill item := by
  rw [← traceCollect_erase] at h
  obtain ⟨⟨trace, count⟩, hrun, hfinal⟩ := Option.map_eq_some_iff.1 h
  cases hfinal
  intro p hp
  exact (traceCollect_collected hmax hresults hrun).stored hlib hresults hp

/-- A library that knows the expression `[.]`. -/
private def dotLibrary : RegexLibrary where
  compiles exp := decide (exp = lit "[.]")
  exec _ value := if 46 ∈ value then some (value.idxOf 46, value.idxOf 46 + 1) else none
  inside := by
    intro _ value start stop h
    split at h
    · rename_i hdot
      cases h
      exact ⟨Nat.le_succ _, List.idxOf_lt_length_iff.2 hdot⟩
    · cases h

/-- Sessions always open, and the agent answers every object with `3.14`. -/
private def piEnv : ItemEnv where
  cfg := .plain
  answers := ⟨fun _ => true, fun _ => ⟨fun _ => lit "3.14", false⟩,
    fun _ => ⟨fun _ => false, fun _ => false, false, .failed, none⟩,
    fun _ => ⟨0, -1, fun _ => ⟨false, 0, false, false, .failed, false, []⟩⟩,
    regexReplace dotLibrary⟩
  maxOids := 10
  spikeKill := false

private def loadItem (regex : Text) : Target :=
  ⟨undefinedText, 1, .snmp, lit "router", lit "load", lit ".1.3.6.1.4.1.2021.10.1.3.1", regex,
    ⟨lit "public", 2, [], [], [], [], [], [], [], 161, 500⟩⟩

/-- What a collection of one item stores, and the number of its rows. -/
private def storedTexts (regex : Text) : Option (List Text × Nat) :=
  (collectPollItems piEnv ⟨false, false⟩ [loadItem regex]).map fun r =>
    (r.1.items.map Target.result, r.2)

theorem collectPollItems_whole_load : ∃ loop rows,
    collectPollItems piEnv ⟨false, false⟩ [loadItem []] = some (loop, rows) ∧
      (loop.items.map Target.result, rows) = ([lit "3.14"], 1) ∧
      ∀ p < rows, ∃ item, loop.items[p]? = some item ∧ StoredValue dotLibrary false item := by
  have hstored : storedTexts [] = some ([lit "3.14"], 1) := by decide +kernel
  obtain ⟨⟨loop, rows⟩, hrun, htexts⟩ := Option.map_eq_some_iff.1 hstored
  exact ⟨loop, rows, hrun, htexts, collectPollItems_whole piEnv dotLibrary ⟨false, false⟩
    [loadItem []] rfl (by decide) (List.forall_mem_singleton.2 rfl) loop rows hrun⟩

/-- The regex `[.]` leaves the point of the value `3.14`, which is no value. -/
theorem collectPollItems_regex_point : ∃ loop rows,
    collectPollItems piEnv ⟨false, false⟩ [loadItem (lit "[.]")] = some (loop, rows) ∧
      (loop.items.map Target.result, rows) = ([lit "."], 1) ∧
      lit "." ≠ undefinedText ∧
      normalizePollResult (lit ".") true = (.invalid, undefinedText) := by
  have hstored : storedTexts (lit "[.]") = some ([lit "."], 1) := by decide +kernel
  obtain ⟨⟨loop, rows⟩, hrun, htexts⟩ := Option.map_eq_some_iff.1 hstored
  exact ⟨loop, rows, hrun, htexts, by decide, by decide⟩

end Spine
