import WorkerBindings.Settings.Basic

/-!
# The values of settings

Settings are known by the values of their keys. Putting a value under a key is possible exactly if
it is of the kind that the key takes, and changes no other value. So making a setting from a name
and a text comes to one of three things (`Settings.Sets`): there is no such setting, the text is
none for a switch, or the setting is made and all others stay.
-/

namespace WorkerBindings

namespace SettingKey

theorem mem_all (key : SettingKey) : key ∈ all := by
  cases key <;> decide

theorem name_injective {key other : SettingKey} (same : key.name = other.name) : key = other := by
  cases key <;> cases other <;> first | rfl | exact absurd same (by decide)

theorem ofName?_name (key : SettingKey) : ofName? key.name = some key := by
  cases key <;> rfl

theorem name_of_ofName? {name : String} {key : SettingKey} (found : ofName? name = some key) :
    key.name = name := by
  simpa using List.find?_some found

theorem name_ne_of_ofName? {name : String} (missing : ofName? name = none) (key : SettingKey) :
    key.name ≠ name := by
  rintro rfl
  rw [ofName?_name] at missing
  cases missing

/-- A value is of the kind that a setting takes. -/
def Suits (key : SettingKey) : Toml.Value → Prop
  | .text _ => key.isSwitch = false
  | .switch _ => key.isSwitch = true
  | .other => False

/-- A setting takes a text, and shows it as another: as it is, or as a switch in lower case. -/
inductive Takes (key : SettingKey) (text : String) : String → Prop
  | text (isText : key.isSwitch = false) : Takes key text text
  | on (isSwitch : key.isSwitch = true)
      (same : Text.sameIgnoringCase (Text.trim text) "true" = true) : Takes key text "true"
  | off (isSwitch : key.isSwitch = true)
      (same : Text.sameIgnoringCase (Text.trim text) "false" = true) : Takes key text "false"

end SettingKey

namespace Settings

/-- Settings with the same values are the same. -/
theorem ext_value? {settings other : Settings}
    (same : ∀ key, settings.value? key = other.value? key) : settings = other := by
  have text : ∀ {first second : Option String},
      first.map Toml.Value.text = second.map .text → first = second :=
    fun equal => Option.map_injective (fun _ _ => Toml.Value.text.inj) equal
  have switch : ∀ {first second : Option Bool},
      first.map Toml.Value.switch = second.map .switch → first = second :=
    fun equal => Option.map_injective (fun _ _ => Toml.Value.switch.inj) equal
  cases settings
  cases other
  rw [mk.injEq]
  exact ⟨text (same .executionModel), switch (same .enableGeneration), switch (same .autoRegister),
    text (same .outputNamespace), text (same .outputDirectory), text (same .scriptFile)⟩

theorem suits_of_value? {settings : Settings} {key : SettingKey} {value : Toml.Value}
    (found : settings.value? key = some value) : key.Suits value := by
  cases key <;> obtain ⟨_, _, rfl⟩ := Option.map_eq_some_iff.mp found <;> rfl

theorem exists_put? (settings : Settings) {key : SettingKey} {value : Toml.Value}
    (suits : key.Suits value) : ∃ changed, settings.put? key value = some changed := by
  cases value with
  | text value => cases key <;> first | exact ⟨_, rfl⟩ | cases suits
  | switch value => cases key <;> first | exact ⟨_, rfl⟩ | cases suits
  | other => cases suits

/-- The value that was put is there, and all others are as they were. -/
theorem value?_put? {settings changed : Settings} {key : SettingKey} {value : Toml.Value}
    (put : settings.put? key value = some changed) (other : SettingKey) :
    changed.value? other = if other = key then some value else settings.value? other := by
  cases value with
  | text value => cases key <;> cases put <;> cases other <;> rfl
  | switch value => cases key <;> cases put <;> cases other <;> rfl
  | other => cases key <;> cases put

theorem get?_name (settings : Settings) (key : SettingKey) :
    settings.get? key.name = (settings.value? key).map shown := by
  rw [get?, SettingKey.ofName?_name]
  change (settings.value? key).bind _ = _
  cases settings.value? key <;> rfl

theorem parse_eq_ok {key : SettingKey} {text : String} {value : Toml.Value}
    (parsed : parse key text = .ok value) : key.Suits value ∧ key.Takes text (shown value) := by
  unfold parse at parsed
  split at parsed
  · rename_i isSwitch
    unfold switchOf? at parsed
    split at parsed
    · rename_i found
      cases parsed
      refine ⟨isSwitch, ?_⟩
      split at found
      · rename_i same
        cases found
        exact .on isSwitch same
      split at found
      · rename_i same
        cases found
        exact .off isSwitch same
      · cases found
    · cases parsed
  · rename_i isText
    cases parsed
    exact ⟨Bool.eq_false_iff.mpr isText, .text (Bool.eq_false_iff.mpr isText)⟩

theorem parse_eq_error {key : SettingKey} {text : String} {reason : SettingsError}
    (refused : parse key text = .error reason) :
    reason = .invalidSwitch key text ∧ ∀ shown, ¬ key.Takes text shown := by
  unfold parse at refused
  split at refused
  · rename_i isSwitch
    split at refused
    · cases refused
    · rename_i none
      cases refused
      refine ⟨rfl, ?_⟩
      unfold switchOf? at none
      rintro shown (isText | ⟨_, same⟩ | ⟨_, same⟩)
      · rw [isSwitch] at isText
        cases isText
      · rw [if_pos same] at none
        cases none
      · rw [if_pos same] at none
        split at none <;> cases none
  · cases refused

/-- What making the setting of a name from a text comes to. -/
inductive Sets (settings : Settings) (name text : String) : Except SettingsError Settings → Prop
  /-- No setting has the name. -/
  | unknownKey (unknown : ∀ key : SettingKey, key.name ≠ name) :
      Sets settings name text (.error (.unknownKey name))
  /-- The setting is a switch, and the text is neither true nor false. -/
  | invalidSwitch {key : SettingKey} (named : key.name = name) (isSwitch : key.isSwitch = true)
      (refuses : ∀ shown, ¬ key.Takes text shown) :
      Sets settings name text (.error (.invalidSwitch key text))
  /-- The setting shows what it takes the text for, and all others are as they were. -/
  | made {key : SettingKey} {shown : String} {changed : Settings} (named : key.name = name)
      (takes : key.Takes text shown) (holds : changed.get? name = some shown)
      (others : ∀ other, other ≠ key → changed.value? other = settings.value? other) :
      Sets settings name text (.ok changed)

theorem set_of_unknown (settings : Settings) {name : String}
    (missing : SettingKey.ofName? name = none) (text : String) :
    settings.set name text = .error (.unknownKey name) := by
  unfold set
  rw [missing]

theorem set_of_refused (settings : Settings) {name text : String} {key : SettingKey}
    {reason : SettingsError} (found : SettingKey.ofName? name = some key)
    (refused : parse key text = .error reason) : settings.set name text = .error reason := by
  unfold set
  rw [found]
  simp only [bind, Except.bind, refused]

theorem set_of_put {settings changed : Settings} {name text : String} {key : SettingKey}
    {value : Toml.Value} (found : SettingKey.ofName? name = some key)
    (parsed : parse key text = .ok value) (put : settings.put? key value = some changed) :
    settings.set name text = .ok changed := by
  unfold set
  rw [found]
  simp only [bind, Except.bind, parsed, put]

theorem set_sets (settings : Settings) (name text : String) :
    Sets settings name text (settings.set name text) := by
  cases found : SettingKey.ofName? name with
  | none =>
    rw [set_of_unknown settings found]
    exact .unknownKey (SettingKey.name_ne_of_ofName? found)
  | some key =>
    have named := SettingKey.name_of_ofName? found
    cases parsed : parse key text with
    | error reason =>
      rw [set_of_refused settings found parsed]
      obtain ⟨rfl, refuses⟩ := parse_eq_error parsed
      have isSwitch : key.isSwitch = true := by
        cases isText : key.isSwitch with
        | true => rfl
        | false => exact absurd (.text isText) (refuses text)
      exact .invalidSwitch named isSwitch refuses
    | ok value =>
      obtain ⟨suits, takes⟩ := parse_eq_ok parsed
      obtain ⟨changed, put⟩ := exists_put? settings suits
      have values := value?_put? put
      rw [set_of_put found parsed put]
      refine .made named takes ?_ fun other differs => ?_
      · rw [← named, get?_name, values, if_pos rfl]
        rfl
      · rw [values, if_neg differs]

end Settings

end WorkerBindings
