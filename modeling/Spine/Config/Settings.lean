import Spine.App.Text

/-!
# Settings

The functions of `config/settings.c` that look up a row of the `settings` table.
`settings_cache_load` reads the whole table with one query, and `getsetting`
answers from what was loaded; without a cache it sends a query for the one
setting.

* `setOption`, `settingsCacheLoad` and `getsetting` are the functions.  `alloc k`
  says whether the `k`-th allocation of the load succeeds, and `server` is what the
  database answers to a query.  `none` is the call of `die`.
* `namedRows` are the rows that a setting can be looked up in, and `lookup` is the
  value of the first one with the name.
* `exists_loadRows`: the cache holds the named rows before the first one whose
  copies failed.
* `lookup_eq_lookup_append_iff`: a lookup in a front part of the rows loses the
  values behind it and nothing else.
-/

namespace Spine

open Base.CString

/-! ## The functions -/

/-- A row of the `settings` table.  `none` is `NULL`. -/
structure SettingRow where
  name : Option Text
  value : Option Text
  deriving DecidableEq

/-- What the server answers to a query. -/
inductive QueryAnswer where
  | rows (rows : List (List (Option Text)))
  | noResult
  | error
  deriving DecidableEq

/-- `set_option` for an option and a value that are not `NULL`. -/
def setOption (opttable : List (Text × Text)) (option value : Text) :
    Option (List (Text × Text)) :=
  if 256 ≤ opttable.length then none else some (opttable ++ [(option, value)])

/-- `config_query`.  The inner `none` is a query without a result. -/
def configQuery (server : Text → QueryAnswer) (query : Text) :
    Option (Option (List (List (Option Text)))) :=
  match server query with
  | .rows rows => some (some rows)
  | .noResult => some none
  | .error => none

/-- Column `i` of a row. -/
def column (row : List (Option Text)) (i : Nat) : Option Text := row.getD i none

/-- The loop of `settings_cache_load` with `i` rows loaded.  Allocation 0 is that of
the table; a row has the two after those of the rows before it. -/
def loadRows (alloc : Nat → Bool) (limit : Nat) :
    List (List (Option Text)) → Nat → List (Text × Text)
  | [], _ => []
  | row :: rest, i =>
    if i < limit then
      match column row 0 with
      | none => loadRows alloc limit rest i
      | some name =>
        if alloc (2 * i + 1) && alloc (2 * i + 2) then
          (name, (column row 1).getD []) :: loadRows alloc limit rest (i + 1)
        else []
    else []

/-- The query of `settings_cache_load`. -/
def settingsQuery : Text := lit "SELECT SQL_NO_CACHE name, value FROM settings"

/-- `settings_cache_load`: the cache that it leaves.  The inner `none` is no cache. -/
def settingsCacheLoad (server : Text → QueryAnswer) (alloc : Nat → Bool) :
    Option (Option (List (Text × Text))) :=
  match configQuery server settingsQuery with
  | none => none
  | some none => some none
  | some (some rows) =>
    if rows.length = 0 ∨ rows.length > INT_MAX then some none
    else if alloc 0 then some (some (loadRows alloc rows.length rows 0))
    else some none

/-- The query of `getsetting`. -/
def settingQuery (setting : Text) : Text :=
  lit "SELECT SQL_NO_CACHE value FROM settings WHERE name = '" ++ setting ++ lit "'"

/-- The loops of `getsetting`: the value of the first entry with the name. -/
def findSetting (entries : List (Text × Text)) (setting : Text) : Option Text :=
  (entries.find? fun entry => strcaseeq setting entry.1).map (·.2)

/-- The part of `getsetting` that asks the server. -/
def querySetting (server : Text → QueryAnswer) (setting : Text) : Option Text :=
  match spineSnprintf BUFSIZE (settingQuery setting) with
  | none => none
  | some query =>
    match configQuery server query with
    | none => none
    | some none => some []
    | some (some []) => some []
    | some (some (row :: _)) => some ((column row 0).getD [])

/-- `getsetting`. -/
def getsetting (server : Text → QueryAnswer) (opttable : List (Text × Text))
    (cache : Option (List (Text × Text))) (setting : Text) : Option Text :=
  match findSetting opttable setting with
  | some value => some value
  | none =>
    match cache with
    | some entries => some ((findSetting entries setting).getD [])
    | none => querySetting server setting

/-! ## Rows -/

/-- Whether the server finds a row for a setting. -/
def SettingRow.matches (row : SettingRow) (setting : Text) : Bool :=
  match row.name with
  | none => false
  | some name => strcaseeq setting name

/-- The rows with a name, and the texts of their values. -/
def namedRows (table : List SettingRow) : List (Text × Text) :=
  table.filterMap fun row => row.name.map fun name => (name, row.value.getD [])

/-- The text of a setting in a list of entries. -/
def lookup (entries : List (Text × Text)) (setting : Text) : Text :=
  (findSetting entries setting).getD []

/-- The two copies of the entry at an index succeed. -/
def Copied (alloc : Nat → Bool) (i : Nat) : Prop :=
  alloc (2 * i + 1) = true ∧ alloc (2 * i + 2) = true

/-- No two rows have names that differ only in case. -/
def UniqueNames (table : List SettingRow) : Prop :=
  (namedRows table).Pairwise fun a b => strcaseeq a.1 b.1 = false

theorem strcaseeq_iff {a b : Text} : strcaseeq a b = true ↔ a.map toLower = b.map toLower := by
  unfold strcaseeq
  exact beq_iff_eq

/-- The columns of the row in the query for the whole table. -/
def SettingRow.columns (row : SettingRow) : List (Option Text) := [row.name, row.value]

/-- The cache is what stands before the first entry that was not copied. -/
theorem exists_loadRows (alloc : Nat → Bool) {limit i : Nat} {table : List SettingRow}
    (h : i + table.length ≤ limit) :
    ∃ lost, namedRows table = loadRows alloc limit (table.map SettingRow.columns) i ++ lost ∧
      (∀ k < (loadRows alloc limit (table.map SettingRow.columns) i).length,
        Copied alloc (i + k)) ∧
      (lost ≠ [] →
        ¬ Copied alloc (i + (loadRows alloc limit (table.map SettingRow.columns) i).length)) := by
  induction table generalizing i with
  | nil => exact ⟨[], rfl, fun k hk => absurd hk (Nat.not_lt_zero k), fun hne => absurd rfl hne⟩
  | cons row table ih =>
    rw [List.length_cons] at h
    obtain ⟨name, value⟩ := row
    have hlimit : i < limit := by omega
    cases name with
    | none =>
      obtain ⟨lost, hnamed, hcopied, hlost⟩ := ih (i := i) (by omega)
      have hload :
          loadRows alloc limit (List.map SettingRow.columns (⟨none, value⟩ :: table)) i =
            loadRows alloc limit (table.map SettingRow.columns) i := if_pos hlimit
      rw [hload]
      exact ⟨lost, hnamed, hcopied, hlost⟩
    | some name =>
      have hload :
          loadRows alloc limit (List.map SettingRow.columns (⟨some name, value⟩ :: table)) i =
            if alloc (2 * i + 1) && alloc (2 * i + 2) then
              (name, value.getD []) :: loadRows alloc limit (table.map SettingRow.columns) (i + 1)
            else [] := if_pos hlimit
      rw [hload]
      by_cases hcopy : Copied alloc i
      · obtain ⟨lost, hnamed, hcopied, hlost⟩ := ih (i := i + 1) (by omega)
        rw [if_pos (by rw [hcopy.1, hcopy.2]; rfl)]
        refine ⟨lost, congrArg ((name, value.getD []) :: ·) hnamed, fun k hk => ?_, ?_⟩
        · cases k with
          | zero => exact hcopy
          | succ k =>
            have hk' := hcopied k (Nat.lt_of_succ_lt_succ hk)
            rwa [Nat.add_right_comm] at hk'
        · intro hne
          have hend := hlost hne
          rwa [Nat.add_right_comm] at hend
      · rw [if_neg (by rw [Bool.and_eq_true]; exact hcopy)]
        exact ⟨_, rfl, fun k hk => absurd hk (Nat.not_lt_zero k), fun _ => hcopy⟩

/-! ## Lookups -/

section Lookup

variable {setting : Text}

/-- A setting has at most one entry. -/
theorem eq_of_strcaseeq {entries : List (Text × Text)}
    (hunique : entries.Pairwise fun a b => strcaseeq a.1 b.1 = false) {a b : Text × Text}
    (ha : a ∈ entries) (hb : b ∈ entries) (hsa : strcaseeq setting a.1 = true)
    (hsb : strcaseeq setting b.1 = true) : a = b := by
  have hsame : ∀ {a b : Text × Text}, strcaseeq setting a.1 = true →
      strcaseeq setting b.1 = true → strcaseeq a.1 b.1 = true := by
    intro a b hsa hsb
    rw [strcaseeq_iff] at hsa hsb ⊢
    rw [← hsa, hsb]
  induction entries with
  | nil => cases ha
  | cons entry entries ih =>
    rw [List.pairwise_cons] at hunique
    rcases List.mem_cons.mp ha with rfl | ha'
    · rcases List.mem_cons.mp hb with rfl | hb'
      · rfl
      · have hne := hunique.1 b hb'
        rw [hsame hsa hsb] at hne
        cases hne
    · rcases List.mem_cons.mp hb with rfl | hb'
      · have hne := hunique.1 a ha'
        rw [hsame hsb hsa] at hne
        cases hne
      · exact ih hunique.2 ha' hb'

theorem mem_of_find? {entries : List (Text × Text)} {found : Text × Text}
    (h : (entries.find? fun entry => strcaseeq setting entry.1) = some found) :
    found ∈ entries ∧ strcaseeq setting found.1 = true :=
  ⟨List.mem_of_find?_eq_some h,
    List.find?_some (p := fun entry : Text × Text => strcaseeq setting entry.1) h⟩

theorem lookup_of_mem {entries : List (Text × Text)}
    (hunique : entries.Pairwise fun a b => strcaseeq a.1 b.1 = false) {entry : Text × Text}
    (hentry : entry ∈ entries) (hsetting : strcaseeq setting entry.1 = true) :
    lookup entries setting = entry.2 := by
  unfold lookup findSetting
  cases hfind : entries.find? fun entry => strcaseeq setting entry.1 with
  | none =>
    have hnone := List.find?_eq_none.mp hfind entry hentry
    exact absurd hsetting hnone
  | some found =>
    obtain ⟨hmem, hmatch⟩ := mem_of_find? hfind
    rw [eq_of_strcaseeq hunique hmem hentry hmatch hsetting]
    rfl

theorem lookup_of_forall {entries : List (Text × Text)}
    (h : ∀ entry ∈ entries, strcaseeq setting entry.1 = true → entry.2 = []) :
    lookup entries setting = [] := by
  unfold lookup findSetting
  cases hfind : entries.find? fun entry => strcaseeq setting entry.1 with
  | none => rfl
  | some found =>
    obtain ⟨hmem, hmatch⟩ := mem_of_find? hfind
    exact h found hmem hmatch

/-- A front part of the entries answers like all of them, unless it lost a value. -/
theorem lookup_eq_lookup_append_iff {loaded lost : List (Text × Text)}
    (hunique : (loaded ++ lost).Pairwise fun a b => strcaseeq a.1 b.1 = false) :
    lookup loaded setting = lookup (loaded ++ lost) setting ↔
      ∀ entry ∈ lost, strcaseeq setting entry.1 = true → entry.2 = [] := by
  obtain ⟨hloaded, -, hacross⟩ := List.pairwise_append.mp hunique
  constructor
  · intro hsame entry hentry hsetting
    have hnone : lookup loaded setting = [] := by
      apply lookup_of_forall
      intro found hfound hmatch
      have heq := eq_of_strcaseeq hunique (List.mem_append_left _ hfound)
        (List.mem_append_right _ hentry) hmatch hsetting
      have hne := hacross found hfound entry hentry
      rw [heq, strcaseeq, beq_self_eq_true] at hne
      cases hne
    rw [← lookup_of_mem hunique (List.mem_append_right _ hentry) hsetting, ← hsame, hnone]
  · intro hlost
    by_cases hfound : ∃ entry ∈ loaded, strcaseeq setting entry.1 = true
    · obtain ⟨entry, hentry, hsetting⟩ := hfound
      rw [lookup_of_mem hloaded hentry hsetting,
        lookup_of_mem hunique (List.mem_append_left _ hentry) hsetting]
    · have hnot : ∀ entry ∈ loaded, strcaseeq setting entry.1 = true → entry.2 = [] :=
        fun entry hentry hsetting => absurd ⟨entry, hentry, hsetting⟩ hfound
      rw [lookup_of_forall hnot, lookup_of_forall]
      intro entry hentry
      rcases List.mem_append.mp hentry with hentry | hentry
      · exact hnot entry hentry
      · exact hlost entry hentry

end Lookup

/-! ## The cache and the query -/

/-- The server answers from the table: the rows in the order of the list, and for a
setting the values of the rows whose names it finds equal. -/
structure Serves (server : Text → QueryAnswer) (table : List SettingRow) (setting : Text) :
    Prop where
  whole : server settingsQuery = .rows (table.map SettingRow.columns)
  single : server (settingQuery setting) =
    .rows ((table.filter fun row => row.matches setting).map fun row => [row.value])

theorem lookup_namedRows_cons_of_not_matches {row : SettingRow} {setting : Text}
    (h : row.matches setting = false) (table : List SettingRow) :
    lookup (namedRows (row :: table)) setting = lookup (namedRows table) setting := by
  obtain ⟨name, value⟩ := row
  cases name with
  | none => rfl
  | some name =>
    have hname : strcaseeq setting name = false := h
    show lookup ((name, value.getD []) :: namedRows table) setting = _
    rw [lookup, findSetting, List.find?_cons_of_neg (by simp [hname])]
    rfl

/-- The first row that the server finds holds the text of the setting. -/
theorem column_filter_matches (table : List SettingRow) (setting : Text) :
    (match (table.filter fun row => row.matches setting).map fun row => [row.value] with
      | [] => []
      | row :: _ => (column row 0).getD []) = lookup (namedRows table) setting := by
  induction table with
  | nil => rfl
  | cons row table ih =>
    by_cases hmatch : row.matches setting = true
    · rw [List.filter_cons_of_pos (p := fun row : SettingRow => row.matches setting) hmatch]
      obtain ⟨name, value⟩ := row
      cases name with
      | none => cases hmatch
      | some name =>
        have hname : strcaseeq setting name = true := hmatch
        show value.getD [] = lookup ((name, value.getD []) :: namedRows table) setting
        rw [lookup, findSetting, List.find?_cons_of_pos (by exact hname)]
        rfl
    · rw [List.filter_cons_of_neg (p := fun row : SettingRow => row.matches setting) hmatch,
        lookup_namedRows_cons_of_not_matches (Bool.eq_false_of_not_eq_true hmatch)]
      exact ih

theorem querySetting_eq {server : Text → QueryAnswer} {table : List SettingRow} {setting : Text}
    (h : Serves server table setting) :
    querySetting server setting =
      if (settingQuery setting).length < BUFSIZE then some (lookup (namedRows table) setting)
      else none := by
  unfold querySetting spineSnprintf
  by_cases hfits : (settingQuery setting).length < BUFSIZE
  · rw [if_pos hfits, if_pos hfits, ← column_filter_matches]
    unfold configQuery
    dsimp only
    rw [h.single]
    cases (table.filter fun row => row.matches setting).map fun row => [row.value] with
    | nil => rfl
    | cons row rows => rfl
  · rw [if_neg hfits, if_neg hfits]

/-- The load builds a cache for this table. -/
def CacheBuilt (table : List SettingRow) (alloc : Nat → Bool) : Prop :=
  table ≠ [] ∧ table.length ≤ INT_MAX ∧ alloc 0 = true

theorem settingsCacheLoad_of_built {server : Text → QueryAnswer} {table : List SettingRow}
    {setting : Text} (h : Serves server table setting) {alloc : Nat → Bool}
    (hbuilt : CacheBuilt table alloc) :
    settingsCacheLoad server alloc =
      some (some (loadRows alloc table.length (table.map SettingRow.columns) 0)) := by
  obtain ⟨hne, hlength, halloc⟩ := hbuilt
  have hpos := List.length_pos_of_ne_nil hne
  have hrows : ¬ ((table.map SettingRow.columns).length = 0 ∨
      (table.map SettingRow.columns).length > INT_MAX) := by
    rw [List.length_map]
    omega
  unfold settingsCacheLoad configQuery
  rw [h.whole]
  dsimp only
  rw [if_neg hrows, if_pos halloc, List.length_map]

theorem settingsCacheLoad_of_not_built {server : Text → QueryAnswer} {table : List SettingRow}
    {setting : Text} (h : Serves server table setting) {alloc : Nat → Bool}
    (hbuilt : ¬ CacheBuilt table alloc) : settingsCacheLoad server alloc = some none := by
  unfold settingsCacheLoad configQuery
  rw [h.whole]
  dsimp only
  by_cases hrows : (table.map SettingRow.columns).length = 0 ∨
      (table.map SettingRow.columns).length > INT_MAX
  · rw [if_pos hrows]
  · rw [if_neg hrows]
    rw [List.length_map] at hrows
    have halloc : ¬ alloc 0 = true := by
      intro halloc
      exact hbuilt ⟨fun hnil => hrows (Or.inl (by rw [hnil]; rfl)), by omega, halloc⟩
    rw [if_neg halloc]

/-- The copies of every entry up to the one of the setting succeed, if it has a
value to lose. -/
def ValueKept (table : List SettingRow) (alloc : Nat → Bool) (setting : Text) : Prop :=
  ∀ j entry, (namedRows table)[j]? = some entry → strcaseeq setting entry.1 = true →
    entry.2 ≠ [] → ∀ k ≤ j, Copied alloc k

theorem lookup_loadRows_iff {table : List SettingRow} (hunique : UniqueNames table)
    (alloc : Nat → Bool) (setting : Text) :
    lookup (loadRows alloc table.length (table.map SettingRow.columns) 0) setting =
        lookup (namedRows table) setting ↔ ValueKept table alloc setting := by
  have hlimit : 0 + table.length ≤ table.length := by omega
  obtain ⟨lost, hnamed, hcopied, hlost⟩ := exists_loadRows alloc hlimit
  unfold UniqueNames at hunique
  unfold ValueKept
  rw [hnamed] at hunique ⊢
  simp only [Nat.zero_add] at hcopied hlost
  rw [lookup_eq_lookup_append_iff hunique]
  generalize loadRows alloc table.length (table.map SettingRow.columns) 0 = loaded at *
  constructor
  · intro hempty j entry hj hsetting hvalue k hk
    by_cases hin : j < loaded.length
    · exact hcopied k (by omega)
    · rw [List.getElem?_append_right (by omega)] at hj
      exact absurd (hempty entry (List.mem_of_getElem? hj) hsetting) hvalue
  · intro hkept entry hentry hsetting
    by_contra hvalue
    obtain ⟨r, hr⟩ := List.getElem?_of_mem hentry
    have hj : (loaded ++ lost)[loaded.length + r]? = some entry := by
      rw [List.getElem?_append_right (by omega), Nat.add_sub_cancel_left, hr]
    exact hlost (List.ne_nil_of_mem hentry)
      (hkept _ entry hj hsetting hvalue loaded.length (by omega))

/-- When the cache answers as the query would.  The lost case is a copy that fails
after the table was allocated: the cache then ends before the setting and is used
all the same. -/
theorem getsetting_cached_iff {table : List SettingRow} (hunique : UniqueNames table)
    {server : Text → QueryAnswer} {setting : Text} (hserver : Serves server table setting)
    (alloc : Nat → Bool) (opttable : List (Text × Text)) :
    ((settingsCacheLoad server alloc).bind fun cache =>
          getsetting server opttable cache setting) =
        getsetting server opttable none setting ↔
      (∃ entry ∈ opttable, strcaseeq setting entry.1 = true) ∨ ¬ CacheBuilt table alloc ∨
        (settingQuery setting).length < BUFSIZE ∧ ValueKept table alloc setting := by
  have hover : (∃ entry ∈ opttable, strcaseeq setting entry.1 = true) ↔
      findSetting opttable setting ≠ none := by
    unfold findSetting
    simp
  rw [hover]
  cases hfind : findSetting opttable setting with
  | some value =>
    -- An override comes before the cache and before the query.
    have hvalue : ∀ cache, getsetting server opttable cache setting = some value := by
      intro cache
      unfold getsetting
      rw [hfind]
    by_cases hbuilt : CacheBuilt table alloc
    · rw [settingsCacheLoad_of_built hserver hbuilt]
      simp [hvalue]
    · rw [settingsCacheLoad_of_not_built hserver hbuilt]
      simp [hvalue]
  | none =>
    have hquery : getsetting server opttable none setting = querySetting server setting := by
      rw [getsetting, hfind]
    by_cases hbuilt : CacheBuilt table alloc
    · have hcache : ((settingsCacheLoad server alloc).bind fun cache =>
          getsetting server opttable cache setting) =
          some (lookup (loadRows alloc table.length (table.map SettingRow.columns) 0) setting) := by
        rw [settingsCacheLoad_of_built hserver hbuilt, Option.bind_some, getsetting, hfind]
        rfl
      rw [hcache, hquery, querySetting_eq hserver, ← lookup_loadRows_iff hunique]
      by_cases hfits : (settingQuery setting).length < BUFSIZE
      · rw [if_pos hfits]
        simp [hbuilt, hfits]
      · rw [if_neg hfits]
        simp [hbuilt, hfits]
    · rw [settingsCacheLoad_of_not_built hserver hbuilt]
      simp [hbuilt]

private def twoSettings : List SettingRow :=
  [⟨some (lit "ping_retries"), some (lit "1")⟩, ⟨some (lit "ping_method"), some (lit "2")⟩]

private def twoSettingsServer (query : Text) : QueryAnswer :=
  if query = settingsQuery then .rows (twoSettings.map SettingRow.columns)
  else .rows [[some (lit "2")]]

private theorem uniqueNames_twoSettings : UniqueNames twoSettings := by
  unfold UniqueNames
  decide

/-- Two rows that are all copied. -/
theorem getsetting_cached_iff_copied :
    ∃ (server : Text → QueryAnswer) (alloc : Nat → Bool),
      ((settingsCacheLoad server alloc).bind fun cache =>
          getsetting server [] cache (lit "PING_METHOD")) =
        getsetting server [] none (lit "PING_METHOD") ∧
      getsetting server [] none (lit "PING_METHOD") = some (lit "2") := by
  refine ⟨twoSettingsServer, fun _ => true, ?_, by decide⟩
  refine (getsetting_cached_iff uniqueNames_twoSettings ⟨by decide, by decide⟩ _ _).mpr
    (Or.inr (Or.inr ?_))
  exact ⟨by decide, fun _ _ _ _ _ _ _ => ⟨rfl, rfl⟩⟩

/-- The copy of the second name fails: the setting reads as empty, and the query
would have found it. -/
theorem getsetting_loses_setting :
    ∃ (server : Text → QueryAnswer) (table : List SettingRow) (alloc : Nat → Bool),
      UniqueNames table ∧ Serves server table (lit "ping_method") ∧
      ((settingsCacheLoad server alloc).bind fun cache =>
          getsetting server [] cache (lit "ping_method")) = some [] ∧
      getsetting server [] none (lit "ping_method") = some (lit "2") :=
  ⟨twoSettingsServer, twoSettings, fun k => k != 3, uniqueNames_twoSettings,
    ⟨by decide, by decide⟩, by decide, by decide⟩

end Spine
