import Mathlib.Data.List.Nodup
import WorkerBindings.Proofs.Generator.Outputs

/-!
# Normal forms of HTTP triggers

The generator for HTTP triggers is the standard one on the normal form of the attribute. Only two
kinds of argument are looked at: those that name an authorization level and those that list methods.
`Argument.IsAcceptable` says which of them pass, `Rewrites` and `IsDropped` what becomes of them,
and `Attribute.IsNormal` how they stand in a normal form, which is its own normal form.
-/

namespace WorkerBindings

namespace Generator

/-- A constant names a level: by the name of the level in any case, by a member of an enumeration
with that name, or by the number of the level. -/
inductive NamesLevel : Constant → String → Prop where
  | text {text level : String} (known : level ∈ levels)
      (same : Text.sameIgnoringCase level text = true) : NamesLevel (.string text) level
  | member {typeName text level : String} (known : level ∈ levels)
      (same : Text.sameIgnoringCase level text = true) :
      NamesLevel (.enum typeName (some text)) level
  | number {value : Int64} {place : Nat} {level : String} (counts : value.toInt = place)
      (known : levels[place]? = some level) : NamesLevel (.int value) level

/-- A text is the name of at most one level. -/
theorem levels_apart : (levels.map fun level => level.toList.map Text.asciiLower).Nodup := by
  decide

theorem levelNamed?_eq_some_iff {text level : String} :
    levelNamed? text = some level ↔ level ∈ levels ∧ Text.sameIgnoringCase level text = true := by
  have stated {other : String} (found : levelNamed? text = some other) :
      other ∈ levels ∧ Text.sameIgnoringCase other text = true := by
    unfold levelNamed? at found
    exact ⟨List.mem_of_find?_eq_some found, by simpa using List.find?_some found⟩
  constructor
  · exact stated
  · rintro ⟨known, same⟩
    obtain ⟨first, found⟩ : ∃ first, levelNamed? text = some first :=
      Option.isSome_iff_exists.mp (List.find?_isSome.mpr ⟨level, known, same⟩)
    obtain ⟨firstKnown, firstSame⟩ := stated found
    have alike : first.toList.map Text.asciiLower = level.toList.map Text.asciiLower :=
      (beq_iff_eq.mp firstSame).trans (beq_iff_eq.mp same).symm
    rw [found, List.inj_on_of_nodup_map levels_apart firstKnown known alike]

theorem mem_levels_of_namesLevel {constant : Constant} {level : String}
    (names : NamesLevel constant level) : level ∈ levels := by
  cases names with
  | text known _ | member known _ => exact known
  | number _ known => exact List.mem_of_getElem? known

theorem namesLevel_int_iff {value : Int64} {level : String} :
    NamesLevel (.int value) level ↔
      ¬ value < 0 ∧ levels[value.toInt.toNat]? = some level := by
  have negative : value < 0 ↔ value.toInt < 0 := Int64.lt_iff_toInt_lt
  constructor
  · intro names
    cases names with
    | number counts known =>
      have notNegative : ¬ value < 0 := by
        rw [negative, counts]
        omega
      exact ⟨notNegative, by rwa [counts, Int.toNat_natCast]⟩
  · rintro ⟨notNegative, known⟩
    have counts : value.toInt = value.toInt.toNat :=
      (Int.toNat_of_nonneg (Int.not_lt.mp (mt negative.mpr notNegative))).symm
    exact .number counts known

/-- A level has a normal form if it is null or names a level, and that is null or the name. -/
theorem normalLevel?_eq_some_iff {constant normal : Constant} :
    normalLevel? constant = some normal ↔
      (constant = .null ∧ normal = .null) ∨
        ∃ level, NamesLevel constant level ∧ normal = .string level := by
  have named {text : String} (names : ∀ level, NamesLevel constant level ↔
      level ∈ levels ∧ Text.sameIgnoringCase level text = true) (present : constant ≠ .null) :
      (levelNamed? text).map Constant.string = some normal ↔
        (constant = .null ∧ normal = .null) ∨
          ∃ level, NamesLevel constant level ∧ normal = .string level := by
    rw [Option.map_eq_some_iff, or_iff_right fun isNull => present isNull.1]
    refine exists_congr fun level => ?_
    rw [levelNamed?_eq_some_iff, names, eq_comm (a := normal)]
  cases constant with
  | null =>
    constructor
    · rintro ⟨⟩
      exact .inl ⟨rfl, rfl⟩
    · rintro (⟨_, rfl⟩ | ⟨level, names, _⟩)
      · rfl
      · cases names
  | string text =>
    refine named (fun level => ⟨?_, fun names => .text names.1 names.2⟩) Constant.noConfusion
    intro names
    cases names with
    | text known same => exact ⟨known, same⟩
  | enum typeName member =>
    cases member with
    | none =>
      refine iff_of_false nofun ?_
      rintro (⟨isNull, _⟩ | ⟨level, names, _⟩)
      · cases isNull
      · cases names
    | some member =>
      refine named (fun level => ⟨?_, fun names => .member names.1 names.2⟩) Constant.noConfusion
      intro names
      cases names with
      | member known same => exact ⟨known, same⟩
  | int value =>
    rw [normalLevel?, Option.ite_none_left_eq_some, Option.map_eq_some_iff, ← exists_and_left,
      or_iff_right fun isNull => Constant.noConfusion isNull.1]
    refine exists_congr fun level => ?_
    rw [namesLevel_int_iff, eq_comm (a := normal), and_assoc]
  | float | bool | type | array | unresolved =>
    refine iff_of_false nofun ?_
    rintro (⟨isNull, _⟩ | ⟨level, names, _⟩)
    · cases isNull
    · cases names

/-- A constant is a method: a text that is not blank. -/
def IsMethodText (constant : Constant) : Prop :=
  ∃ text, constant = .string text ∧ Text.isBlankText text = false

theorem isMethod_iff {constant : Constant} : isMethod constant = true ↔ IsMethodText constant := by
  cases constant <;> simp [isMethod, IsMethodText]

theorem validMethods_iff {constant : Constant} : validMethods constant = true ↔
    constant = .null ∨ ∃ items, constant = .array items ∧ ∀ item ∈ items, IsMethodText item := by
  cases constant <;> simp [validMethods, isMethod_iff]

theorem isEmptyList_iff {constant : Constant} : isEmptyList constant = true ↔
    constant = .array [] := by
  cases constant with
  | array items => cases items <;> simp [isEmptyList]
  | null | string | int | float | bool | type | enum | unresolved => simp [isEmptyList]

end Generator

namespace Argument

open Generator

/-- Whether an argument names an authorization level. -/
def isLevel (argument : Argument) : Bool :=
  Text.sameIgnoringCase argument.name levelKey

/-- Whether an argument lists methods. -/
def isMethods (argument : Argument) : Bool :=
  Text.sameIgnoringCase argument.name methodsKey

/-- An argument that is not looked at, a level that is null or known, or methods that are null or a
list of texts that are not blank. -/
structure IsAcceptable (argument : Argument) : Prop where
  level : argument.isLevel = true →
    argument.value = .null ∨ ∃ level, NamesLevel argument.value level
  methods : argument.isMethods = true → argument.value = .null ∨
    ∃ items, argument.value = .array items ∧ ∀ item ∈ items, IsMethodText item

/-- An argument as it may stand in a normal form: a level by its own name, and methods of which
there are some. -/
structure IsNormal (argument : Argument) : Prop where
  level : argument.isLevel = true →
    argument.value = .null ∨ ∃ level ∈ levels, argument.value = .string level
  methods : argument.isMethods = true → argument.value = .null ∨
    ∃ items, argument.value = .array items ∧ items ≠ [] ∧ ∀ item ∈ items, IsMethodText item

/-- What becomes of an argument that is kept. -/
inductive Rewrites (argument : Argument) : Argument → Prop where
  | other (notLevel : argument.isLevel = false) (notMethods : argument.isMethods = false) :
      Rewrites argument argument
  | noLevel (isLevel : argument.isLevel = true) (isNull : argument.value = .null) :
      Rewrites argument argument
  | level {level : String} (isLevel : argument.isLevel = true)
      (names : NamesLevel argument.value level) :
      Rewrites argument { argument with value := .string level }
  | noMethods (isMethods : argument.isMethods = true) (isNull : argument.value = .null) :
      Rewrites argument argument
  | methods {items : List Constant} (isMethods : argument.isMethods = true)
      (isList : argument.value = .array items) (some : items ≠ [])
      (each : ∀ item ∈ items, IsMethodText item) : Rewrites argument argument

/-- An argument that is dropped: an empty list of methods. -/
def IsDropped (argument : Argument) : Prop :=
  argument.isMethods = true ∧ argument.value = .array []

variable {argument normal : Argument}

/-- No name is that of a level and that of methods. -/
theorem isMethods_of_isLevel (isLevel : argument.isLevel = true) : argument.isMethods = false := by
  have apart : levelKey.toList.map Text.asciiLower ≠ methodsKey.toList.map Text.asciiLower := by
    decide
  refine Bool.eq_false_iff.mpr fun isMethods => apart ?_
  exact (beq_iff_eq.mp isLevel).symm.trans (beq_iff_eq.mp isMethods)

/-- What an argument is by its name. -/
inductive Kind (argument : Argument) : Prop where
  | level (isLevel : argument.isLevel = true) (notMethods : argument.isMethods = false)
  | methods (notLevel : argument.isLevel = false) (isMethods : argument.isMethods = true)
  | other (notLevel : argument.isLevel = false) (notMethods : argument.isMethods = false)

theorem kind (argument : Argument) : argument.Kind := by
  cases isLevel : argument.isLevel with
  | true => exact .level isLevel (isMethods_of_isLevel isLevel)
  | false =>
    cases isMethods : argument.isMethods with
    | true => exact .methods isLevel isMethods
    | false => exact .other isLevel isMethods

theorem normalArgument_eq : normalArgument argument =
    if argument.isLevel then
      match normalLevel? argument.value with
      | some level => .ok { argument with value := level }
      | none => .error argument.name
    else if argument.isMethods then
      if validMethods argument.value then .ok argument else .error argument.name
    else .ok argument :=
  rfl

theorem normalArgument_level {value : Constant} (isLevel : argument.isLevel = true)
    (known : normalLevel? argument.value = some value) :
    normalArgument argument = .ok { argument with value } := by
  rw [normalArgument_eq, if_pos isLevel, known]

theorem normalArgument_noLevel (isLevel : argument.isLevel = true)
    (unknown : normalLevel? argument.value = none) :
    normalArgument argument = .error argument.name := by
  rw [normalArgument_eq, if_pos isLevel, unknown]

theorem normalArgument_methods (notLevel : argument.isLevel = false)
    (isMethods : argument.isMethods = true) : normalArgument argument =
      if validMethods argument.value then .ok argument else .error argument.name := by
  rw [normalArgument_eq, if_neg (ne_true_of_eq_false notLevel), if_pos isMethods]

theorem normalArgument_other (notLevel : argument.isLevel = false)
    (notMethods : argument.isMethods = false) : normalArgument argument = .ok argument := by
  rw [normalArgument_eq, if_neg (ne_true_of_eq_false notLevel),
    if_neg (ne_true_of_eq_false notMethods)]

/-- An argument has a normal form exactly if it is acceptable; of one that is not, the name is
told. -/
theorem normalArgument_cases (argument : Argument) :
    (argument.IsAcceptable ∧ ∃ normal, normalArgument argument = .ok normal) ∨
      (¬ argument.IsAcceptable ∧ normalArgument argument = .error argument.name) := by
  cases argument.kind with
  | level isLevel notMethods =>
    cases known : normalLevel? argument.value with
    | some level =>
      refine .inl ⟨⟨fun _ => ?_, fun isMethods => ?_⟩, _, normalArgument_level isLevel known⟩
      · exact (normalLevel?_eq_some_iff.mp known).imp And.left
          fun ⟨level, names, _⟩ => ⟨level, names⟩
      · cases notMethods.symm.trans isMethods
    | none =>
      refine .inr ⟨fun acceptable => ?_, normalArgument_noLevel isLevel known⟩
      have some : ∃ level, normalLevel? argument.value = some level := by
        rcases acceptable.level isLevel with isNull | ⟨level, names⟩
        · exact ⟨_, normalLevel?_eq_some_iff.mpr (.inl ⟨isNull, rfl⟩)⟩
        · exact ⟨_, normalLevel?_eq_some_iff.mpr (.inr ⟨level, names, rfl⟩)⟩
      obtain ⟨level, found⟩ := some
      cases known.symm.trans found
  | methods notLevel isMethods =>
    rw [normalArgument_methods notLevel isMethods]
    split
    · rename_i valid
      refine .inl ⟨⟨fun isLevel => ?_, fun _ => validMethods_iff.mp valid⟩, _, rfl⟩
      cases notLevel.symm.trans isLevel
    · rename_i invalid
      exact .inr ⟨fun acceptable => invalid (validMethods_iff.mpr (acceptable.methods isMethods)),
        rfl⟩
  | other notLevel notMethods =>
    refine .inl ⟨⟨fun isLevel => ?_, fun isMethods => ?_⟩, _,
      normalArgument_other notLevel notMethods⟩
    · cases notLevel.symm.trans isLevel
    · cases notMethods.symm.trans isMethods

theorem exists_normalArgument_iff :
    (∃ normal, normalArgument argument = .ok normal) ↔ argument.IsAcceptable := by
  rcases argument.normalArgument_cases with ⟨acceptable, passes⟩ | ⟨refused, fails⟩
  · exact iff_of_true passes acceptable
  · simp [fails, refused]

theorem normalArgument_eq_error_iff {name : String} :
    normalArgument argument = .error name ↔ ¬ argument.IsAcceptable ∧ argument.name = name := by
  rcases argument.normalArgument_cases with ⟨acceptable, _, passes⟩ | ⟨refused, fails⟩
  · simp [passes, acceptable]
  · simp [fails, refused]

theorem isKept_eq_false_iff : isKept argument = false ↔ argument.IsDropped := by
  have unfolded : isKept argument = !(argument.isMethods && isEmptyList argument.value) := rfl
  rw [unfolded, Bool.not_eq_false', Bool.and_eq_true, isEmptyList_iff, IsDropped]

/-- An argument with a normal form is rewritten to it, or dropped. -/
theorem rewrites_of_normalArgument (normalized : normalArgument argument = .ok normal) :
    (isKept normal = true ∧ argument.Rewrites normal) ∨
      (isKept normal = false ∧ argument.IsDropped) := by
  have kept {other : Argument} (notDropped : ¬ other.IsDropped) : isKept other = true :=
    (Bool.not_eq_false _).mp (mt isKept_eq_false_iff.mp notDropped)
  cases argument.kind with
  | level isLevel notMethods =>
    cases known : normalLevel? argument.value with
    | none => cases (normalArgument_noLevel isLevel known).symm.trans normalized
    | some value =>
      cases (normalArgument_level isLevel known).symm.trans normalized
      have notDropped : ¬ IsDropped { argument with value } := fun dropped =>
        Bool.noConfusion (notMethods.symm.trans dropped.1)
      obtain ⟨isNull, rfl⟩ | ⟨level, names, rfl⟩ := normalLevel?_eq_some_iff.mp known
      · have same : { argument with value := .null } = argument := by rw [← isNull]
        rw [same] at notDropped ⊢
        exact .inl ⟨kept notDropped, .noLevel isLevel isNull⟩
      · exact .inl ⟨kept notDropped, .level isLevel names⟩
  | methods notLevel isMethods =>
    rw [normalArgument_methods notLevel isMethods] at normalized
    split at normalized
    · rename_i valid
      cases normalized
      rcases validMethods_iff.mp valid with isNull | ⟨items, isList, each⟩
      · refine .inl ⟨kept fun dropped => ?_, .noMethods isMethods isNull⟩
        cases isNull.symm.trans dropped.2
      · cases items with
        | nil => exact .inr ⟨isKept_eq_false_iff.mpr ⟨isMethods, isList⟩, isMethods, isList⟩
        | cons first rest =>
          refine .inl ⟨kept fun dropped => ?_,
            .methods isMethods isList (List.cons_ne_nil _ _) each⟩
          cases isList.symm.trans dropped.2
    · cases normalized
  | other notLevel notMethods =>
    cases (normalArgument_other notLevel notMethods).symm.trans normalized
    refine .inl ⟨kept fun dropped => ?_, .other notLevel notMethods⟩
    cases notMethods.symm.trans dropped.1

theorem Rewrites.isNormal (rewrites : argument.Rewrites normal) : normal.IsNormal := by
  cases rewrites with
  | other notLevel notMethods =>
    exact ⟨fun isLevel => Bool.noConfusion (notLevel.symm.trans isLevel),
      fun isMethods => Bool.noConfusion (notMethods.symm.trans isMethods)⟩
  | noLevel isLevel isNull =>
    have notMethods := isMethods_of_isLevel isLevel
    exact ⟨fun _ => .inl isNull,
      fun isMethods => Bool.noConfusion (notMethods.symm.trans isMethods)⟩
  | @level level isLevel names =>
    have notMethods := isMethods_of_isLevel isLevel
    exact ⟨fun _ => .inr ⟨level, mem_levels_of_namesLevel names, rfl⟩,
      fun isMethods => Bool.noConfusion (notMethods.symm.trans isMethods)⟩
  | noMethods isMethods isNull =>
    exact ⟨fun _ => .inl isNull, fun _ => .inl isNull⟩
  | methods isMethods isList some each =>
    refine ⟨fun isLevel => ?_, fun _ => .inr ⟨_, isList, some, each⟩⟩
    cases (isMethods_of_isLevel isLevel).symm.trans isMethods

/-- An argument in normal form is kept as it is. -/
theorem IsNormal.fixed (isNormal : argument.IsNormal) :
    normalArgument argument = .ok argument ∧ isKept argument = true := by
  constructor
  · cases argument.kind with
    | level isLevel _ =>
      have known : normalLevel? argument.value = some argument.value := by
        rcases isNormal.level isLevel with isNull | ⟨level, known, isName⟩
        · exact normalLevel?_eq_some_iff.mpr (.inl ⟨isNull, isNull⟩)
        · have names : NamesLevel argument.value level :=
            isName ▸ .text known (beq_iff_eq.mpr rfl)
          exact normalLevel?_eq_some_iff.mpr (.inr ⟨level, names, isName⟩)
      exact normalArgument_level isLevel known
    | methods notLevel isMethods =>
      have valid : validMethods argument.value = true :=
        validMethods_iff.mpr ((isNormal.methods isMethods).imp id
          fun ⟨items, isList, _, each⟩ => ⟨items, isList, each⟩)
      rw [normalArgument_methods notLevel isMethods, if_pos valid]
    | other notLevel notMethods => exact normalArgument_other notLevel notMethods
  · refine (Bool.not_eq_false _).mp (mt isKept_eq_false_iff.mp ?_)
    rintro ⟨isMethods, isEmpty⟩
    rcases isNormal.methods isMethods with isNull | ⟨items, isList, some, _⟩
    · cases isNull.symm.trans isEmpty
    · cases isList.symm.trans isEmpty
      exact some rfl

/-- Whether an argument is not looked at. -/
def isOther (argument : Argument) : Bool :=
  !argument.isLevel && !argument.isMethods

/-- An argument that is not looked at stays, and no other becomes one. -/
theorem Rewrites.eq_of_isOther (rewrites : argument.Rewrites normal) :
    normal.isOther = argument.isOther ∧ (argument.isOther = true → normal = argument) := by
  cases rewrites with
  | other | noLevel | noMethods | methods => exact ⟨rfl, fun _ => rfl⟩
  | level isLevel _ =>
    refine ⟨rfl, fun isOther => ?_⟩
    simp [Argument.isOther, isLevel] at isOther

/-- `NormalizesEach arguments normals` says that the second list is what becomes of the first, item
by item. -/
inductive NormalizesEach : List Argument → List Argument → Prop where
  | nil : NormalizesEach [] []
  | kept {argument normal : Argument} {rest normals : List Argument}
      (first : argument.Rewrites normal) (others : NormalizesEach rest normals) :
      NormalizesEach (argument :: rest) (normal :: normals)
  | dropped {argument : Argument} {rest normals : List Argument} (first : argument.IsDropped)
      (others : NormalizesEach rest normals) : NormalizesEach (argument :: rest) normals

theorem normalizesEach_of_mapM {arguments results : List Argument}
    (normalized : arguments.mapM normalArgument = .ok results) :
    NormalizesEach arguments (results.filter isKept) := by
  rw [mapM_eq_ok_iff] at normalized
  induction normalized with
  | nil => exact .nil
  | cons first _ ih =>
    obtain ⟨isKept, rewrites⟩ | ⟨notKept, dropped⟩ := rewrites_of_normalArgument first
    · rw [List.filter_cons_of_pos isKept]
      exact .kept rewrites ih
    · rw [List.filter_cons_of_neg (Bool.eq_false_iff.mp notKept)]
      exact .dropped dropped ih

namespace NormalizesEach

variable {arguments normals : List Argument}

theorem isNormal (each : NormalizesEach arguments normals) :
    ∀ normal ∈ normals, normal.IsNormal := by
  induction each with
  | nil => exact nofun
  | kept first _ ih => exact List.forall_mem_cons.mpr ⟨first.isNormal, ih⟩
  | dropped _ _ ih => exact ih

/-- Arguments that are not looked at are left alone, in their order. -/
theorem others (each : NormalizesEach arguments normals) :
    normals.filter isOther = arguments.filter isOther := by
  induction each with
  | nil => rfl
  | @kept argument normal _ _ first _ ih =>
    obtain ⟨alike, same⟩ := first.eq_of_isOther
    rw [List.filter_cons, List.filter_cons, alike, ih]
    cases isOther : argument.isOther with
    | true => rw [if_pos rfl, if_pos rfl, same isOther]
    | false => rfl
  | dropped first _ ih =>
    rw [List.filter_cons_of_neg (by simp [isOther, first.1])]
    exact ih

end NormalizesEach

/-- A list in normal form is kept as it is. -/
theorem mapM_of_isNormal {arguments : List Argument}
    (isNormal : ∀ argument ∈ arguments, argument.IsNormal) :
    arguments.mapM normalArgument = .ok arguments ∧ arguments.filter isKept = arguments := by
  refine ⟨(mapM_eq_ok_iff _ _ _).mpr (List.forall₂_same.mpr fun argument member => ?_),
    List.filter_eq_self.mpr fun argument member => ?_⟩
  · exact (isNormal argument member).fixed.1
  · exact (isNormal argument member).fixed.2

end Argument

/-- All arguments stand as they may in a normal form. -/
def Attribute.IsNormal (attr : Attribute) : Prop :=
  ∀ argument ∈ attr.allArguments, argument.IsNormal

namespace Generator

/-- What normalization makes of an attribute: its two lists of arguments item by item, and the rest
of it untouched. -/
structure Normalizes (attr normal : Attribute) : Prop where
  sameFacts : normal = { attr with
    arguments := normal.arguments
    namedArguments := normal.namedArguments }
  arguments : Argument.NormalizesEach attr.arguments normal.arguments
  namedArguments : Argument.NormalizesEach attr.namedArguments normal.namedArguments

variable {attr normal : Attribute}

theorem normalizes_of_normalize (normalized : normalize attr = .ok normal) :
    Normalizes attr normal := by
  obtain ⟨arguments, namedArguments, positional, named, rfl⟩ := normalize_eq_ok normalized
  exact ⟨rfl, Argument.normalizesEach_of_mapM positional, Argument.normalizesEach_of_mapM named⟩

/-- A numbered level gets its name, and an empty list of methods is dropped. -/
example : normalize {
    className := "HttpTriggerAttribute"
    arguments := [⟨"authLevel", .int 2⟩, ⟨"methods", .array []⟩]
    namedArguments := [⟨"Route", .string "orders"⟩] } = .ok {
    className := "HttpTriggerAttribute"
    arguments := [⟨"authLevel", .string "Function"⟩]
    namedArguments := [⟨"Route", .string "orders"⟩] } :=
  rfl

namespace Normalizes

theorem isNormal (normalizes : Normalizes attr normal) : normal.IsNormal := by
  intro argument member
  rcases List.mem_append.mp member with positional | named
  · exact normalizes.arguments.isNormal argument positional
  · exact normalizes.namedArguments.isNormal argument named

/-- Arguments that are not looked at are left alone, in their order. -/
theorem others (normalizes : Normalizes attr normal) :
    normal.allArguments.filter Argument.isOther = attr.allArguments.filter Argument.isOther := by
  rw [Attribute.allArguments, Attribute.allArguments, List.filter_append, List.filter_append,
    normalizes.arguments.others, normalizes.namedArguments.others]

end Normalizes

/-- An attribute in normal form is its own normal form. -/
theorem normalize_of_isNormal (isNormal : attr.IsNormal) : normalize attr = .ok attr := by
  obtain ⟨positional, keptPositional⟩ := Argument.mapM_of_isNormal
    fun argument member => isNormal argument (List.mem_append_left _ member)
  obtain ⟨named, keptNamed⟩ := Argument.mapM_of_isNormal
    fun argument member => isNormal argument (List.mem_append_right _ member)
  rw [normalize, positional, named]
  change Except.ok { attr with
    arguments := attr.arguments.filter isKept
    namedArguments := attr.namedArguments.filter isKept } = _
  rw [keptPositional, keptNamed]
  cases attr
  rfl

/-- Normalization looks at the arguments of both lists in their order. -/
theorem normalize_eq_error_iff_mapM {name : String} : normalize attr = .error name ↔
    attr.allArguments.mapM normalArgument = .error name := by
  rw [Attribute.allArguments, List.mapM_append, normalize]
  cases attr.arguments.mapM normalArgument with
  | error reason => simp [bind, Except.bind]
  | ok arguments =>
    cases attr.namedArguments.mapM normalArgument <;>
      simp [bind, Except.bind, pure, Except.pure]

/-- Normalization is refused because of the first argument that is not acceptable. -/
theorem normalize_eq_error_iff {name : String} : normalize attr = .error name ↔
    ∃ before refused after, attr.allArguments = before ++ refused :: after ∧
      (∀ earlier ∈ before, earlier.IsAcceptable) ∧ ¬ refused.IsAcceptable ∧
      refused.name = name := by
  rw [normalize_eq_error_iff_mapM, mapM_eq_error_iff]
  simp only [Argument.exists_normalArgument_iff, Argument.normalArgument_eq_error_iff]

/-- In an attribute with a normal form, all arguments are acceptable. -/
theorem isAcceptable_of_normalize (normalized : normalize attr = .ok normal) :
    ∀ argument ∈ attr.allArguments, argument.IsAcceptable := by
  have each {arguments results : List Argument}
      (succeeds : arguments.mapM normalArgument = .ok results) :
      ∀ argument ∈ arguments, argument.IsAcceptable := fun argument member =>
    Argument.exists_normalArgument_iff.mp ((exists_results_iff normalArgument arguments).mp
      ⟨results, (mapM_eq_ok_iff _ _ _).mp succeeds⟩ argument member)
  obtain ⟨_, _, positional, named, _⟩ := normalize_eq_ok normalized
  intro argument member
  exact (List.mem_append.mp member).elim (each positional argument) (each named argument)

/-- On an attribute with a normal form, the generator for HTTP triggers is the standard one. -/
theorem http_eq_standard {request : Request} (normalized : normalize request.attr = .ok normal)
    (cache : SymbolCache) :
    http request cache = standard { request with attr := normal } cache := by
  rw [http, normalized]

/-- The generator for HTTP triggers refuses the first argument that is not acceptable, or answers as
the standard generator on the normal form of the attribute. That is its own normal form and differs
from the attribute in levels and methods only, so on a normal form the two generators agree. -/
theorem http_refines (request : Request) (cache : SymbolCache) :
    ((∃ before refused after, request.attr.allArguments = before ++ refused :: after ∧
          (∀ earlier ∈ before, earlier.IsAcceptable) ∧ ¬ refused.IsAcceptable ∧
          http request cache = (⟨[], [Diagnostic.report .invalidArgument request.location
            [refused.name, request.target.name]]⟩, cache) ∧
          (http request cache).1.hasErrors = true) ∨
        ((∀ argument ∈ request.attr.allArguments, argument.IsAcceptable) ∧
          ∃ normal, normalize request.attr = .ok normal ∧
            http request cache = standard { request with attr := normal } cache)) ∧
      (∀ normal, normalize request.attr = .ok normal →
        Normalizes request.attr normal ∧ normal.IsNormal ∧ normalize normal = .ok normal ∧
          normal.allArguments.filter Argument.isOther =
            request.attr.allArguments.filter Argument.isOther) ∧
      (request.attr.IsNormal → http request cache = standard request cache) := by
  refine ⟨?_, fun normal normalized => ?_, fun isNormal => ?_⟩
  · cases normalized : normalize request.attr with
    | error name =>
      obtain ⟨before, refused, after, split, earlier, unacceptable, rfl⟩ :=
        normalize_eq_error_iff.mp normalized
      refine .inl ⟨before, refused, after, split, earlier, unacceptable,
        http_apply_error normalized cache, ?_⟩
      rw [http_apply_error normalized cache]
      rfl
    | ok normal =>
      exact .inr ⟨isAcceptable_of_normalize normalized, normal, rfl,
        http_eq_standard normalized cache⟩
  · have normalizes := normalizes_of_normalize normalized
    exact ⟨normalizes, normalizes.isNormal, normalize_of_isNormal normalizes.isNormal,
      normalizes.others⟩
  · exact http_eq_standard (normalize_of_isNormal isNormal) cache

end Generator

end WorkerBindings
