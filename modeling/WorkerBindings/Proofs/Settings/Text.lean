import WorkerBindings.Proofs.Association
import WorkerBindings.Proofs.Settings.Values
import WorkerBindings.Proofs.Toml.Members
import WorkerBindings.Settings.File

/-!
# Settings read back

The text of a settings file is a document with one member for each setting that is made, and the
settings that it holds are those that it was written from.
-/

namespace WorkerBindings.Settings

/-- Those of several settings that are made, by the names of their keys. -/
def membersOf (settings : Settings) (keys : List SettingKey) : List (String × Toml.Value) :=
  keys.filterMap fun key => (settings.value? key).map fun value => (key.name, value)

theorem membersOf_cons (settings : Settings) (key : SettingKey) (rest : List SettingKey) :
    settings.membersOf (key :: rest) =
      ((settings.value? key).map fun value => (key.name, value)).toList ++
        settings.membersOf rest := by
  unfold membersOf
  cases found : settings.value? key <;> simp [found]

theorem text_eq (settings : Settings) : settings.text =
    String.ofList (Toml.memberLines writeValue (settings.membersOf SettingKey.all)) := by
  have lines : ∀ keys : List SettingKey, keys.flatMap settings.lineOf =
      Toml.memberLines writeValue (settings.membersOf keys) := by
    intro keys
    induction keys with
    | nil => rfl
    | cons key rest ih =>
      rw [List.flatMap_cons, ih, membersOf_cons, lineOf]
      cases settings.value? key <;> simp [Toml.memberLines, Toml.memberLine]
  rw [text, lines]

theorem isBareKey_name (key : SettingKey) : Toml.IsBareKey key.name := by
  cases key <;> decide

theorem writes_writeValue {key : SettingKey} {value : Toml.Value} (suits : key.Suits value) :
    Toml.Writes value (writeValue value) := by
  cases value with
  | text value => exact Toml.writes_text value
  | switch value =>
    cases value with
    | true => exact Toml.writes_true
    | false => exact Toml.writes_false
  | other => cases suits

theorem membersOf_areWritten (settings : Settings) (keys : List SettingKey) :
    Toml.AreWritten writeValue (settings.membersOf keys) := by
  intro member isMember
  obtain ⟨key, _, found⟩ := List.mem_filterMap.mp isMember
  obtain ⟨value, made, rfl⟩ := Option.map_eq_some_iff.mp found
  exact ⟨isBareKey_name key, writes_writeValue (suits_of_value? made)⟩

theorem membersOf_distinct (settings : Settings) :
    ((settings.membersOf SettingKey.all).map Prod.fst).Nodup := by
  have within : ∀ keys : List SettingKey,
      ((settings.membersOf keys).map Prod.fst).Sublist (keys.map SettingKey.name) := by
    intro keys
    induction keys with
    | nil => exact .slnil
    | cons key rest ih =>
      rw [membersOf_cons, List.map_append, List.map_cons]
      cases settings.value? key with
      | none => exact ih.cons _
      | some value => exact ih.cons_cons _
  exact (within SettingKey.all).nodup (by decide)

theorem lookup_membersOf (settings : Settings) (key : SettingKey) (keys : List SettingKey) :
    (settings.membersOf keys).lookup key.name =
      if key ∈ keys then settings.value? key else none := by
  induction keys with
  | nil => rfl
  | cons first rest ih =>
    rw [membersOf_cons]
    by_cases same : key = first
    · subst same
      rw [if_pos List.mem_cons_self]
      cases found : settings.value? key with
      | none =>
        rw [Option.map_none, Option.toList_none, List.nil_append, ih, found, ite_self]
      | some value => exact List.lookup_cons_self
    · have differs : key.name ≠ first.name := fun equal => same (SettingKey.name_injective equal)
      have elsewhere : key ∈ first :: rest ↔ key ∈ rest := by simp [same]
      rw [if_congr elsewhere rfl rfl, ← ih]
      cases settings.value? first with
      | none => rfl
      | some value => exact Association.lookup_cons_ne differs value

variable {settings : Settings} {entries : Toml.Entries}

/-- The entries hold the settings. -/
def IsHeldBy (settings : Settings) (entries : Toml.Entries) : Prop :=
  ∀ key : SettingKey, entries.lookup key.name = (settings.value? key).map .value

/-- Each setting is taken from entries that hold it, and no other. -/
theorem foldlM_take? (held : settings.IsHeldBy entries) (keys : List SettingKey)
    (start : Settings) : ∃ result, keys.foldlM (take? entries) start = some result ∧
      ∀ key, result.value? key =
        if key ∈ keys then (settings.value? key).or (start.value? key) else start.value? key := by
  induction keys generalizing start with
  | nil => exact ⟨start, rfl, fun _ => rfl⟩
  | cons first rest ih =>
    obtain ⟨taken, took, values⟩ : ∃ taken, take? entries start first = some taken ∧
        ∀ key, taken.value? key =
          if key = first then (settings.value? key).or (start.value? key)
          else start.value? key := by
      unfold take?
      rw [held first]
      cases found : settings.value? first with
      | none =>
        refine ⟨start, rfl, fun key => ?_⟩
        split
        · rename_i same
          rw [same, found, Option.none_or]
        · rfl
      | some value =>
        obtain ⟨changed, put⟩ := exists_put? start (suits_of_value? found)
        refine ⟨changed, put, fun key => ?_⟩
        rw [value?_put? put]
        split
        · rename_i same
          rw [same, found, Option.some_or]
        · rfl
    obtain ⟨result, later, valuesLater⟩ := ih taken
    refine ⟨result, ?_, fun key => ?_⟩
    · rw [List.foldlM_cons, took]
      exact later
    · rw [valuesLater, values]
      by_cases same : key = first
      · subst same
        rw [if_pos rfl, if_pos List.mem_cons_self]
        cases settings.value? key <;> simp
      · have elsewhere : key ∈ first :: rest ↔ key ∈ rest := by simp [same]
        rw [if_neg same, if_congr elsewhere rfl rfl]

theorem isHeldBy_membersOf (settings : Settings) : settings.IsHeldBy
    ((settings.membersOf SettingKey.all).map fun member => (member.1, .value member.2)) := by
  intro key
  have lookup_map : ∀ members : List (String × Toml.Value),
      (members.map fun member => (member.1, Toml.Node.value member.2)).lookup key.name =
        (members.lookup key.name).map .value := by
    intro members
    induction members with
    | nil => rfl
    | cons member rest ih =>
      rw [List.map_cons, List.lookup_cons, List.lookup_cons, ih]
      cases key.name == member.1 <;> rfl
  rw [lookup_map, lookup_membersOf, if_pos key.mem_all]

/-- The settings in the text of a settings file are those that it was written from. -/
theorem ofText?_text (settings : Settings) : ofText? settings.text = some settings := by
  have read := Toml.entriesOf?_members (settings.membersOf_areWritten SettingKey.all)
    settings.membersOf_distinct
  obtain ⟨result, took, values⟩ := foldlM_take? settings.isHeldBy_membersOf SettingKey.all empty
  have same : result = settings := by
    refine ext_value? fun key => ?_
    have unset : empty.value? key = none := by
      cases key <;> rfl
    rw [values, if_pos key.mem_all, unset, Option.or_none]
  rw [ofText?, text_eq, read]
  exact took.trans (congrArg some same)

end WorkerBindings.Settings
