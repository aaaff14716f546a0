import WorkerBindings.Proofs.Json.Nesting
import WorkerBindings.Symbol.Attribute

/-!
# Attributes read back

Constants and attributes are read back from their documents at any depth, as far as the budget for
nesting goes. A document holds no number but 64-bit integers as long as no argument is a
floating-point number, whose text is not always that of its value.
-/

namespace WorkerBindings

open Decoder

namespace Constant

mutual

/-- Whether a constant holds no floating-point number at any depth. -/
def isFloatless : Constant → Bool
  | .float _ => false
  | .array items => areFloatless items
  | _ => true

/-- Whether several constants hold none. -/
def areFloatless : List Constant → Bool
  | [] => true
  | item :: rest => item.isFloatless && areFloatless rest

end

theorem fitsInteger_toInt (value : Int64) : Json.fitsInteger value.toInt := by
  have below : (Text.int64Max : Int) ≤ Text.uint64Max := by decide
  exact ⟨value.le_toInt, Int.le_trans (Int.le_of_lt_add_one value.toInt_lt) below⟩

mutual

/-- The document of a constant without floating-point numbers holds none either. -/
theorem toJson_isIntegral : ∀ constant : Constant, constant.isFloatless = true →
    constant.toJson.IsIntegral
  | .null, _ => ⟨trivial, trivial⟩
  | .string _, _ => ⟨trivial, trivial, trivial⟩
  | .int value, _ => ⟨trivial, fitsInteger_toInt value, trivial⟩
  | .float _, floatless => by cases floatless
  | .bool _, _ => ⟨trivial, trivial, trivial⟩
  | .type _, _ => ⟨trivial, trivial, trivial⟩
  | .enum _ none, _ => ⟨trivial, ⟨trivial, trivial, trivial⟩, trivial⟩
  | .enum _ (some _), _ => ⟨trivial, ⟨trivial, trivial, trivial⟩, trivial⟩
  | .array items, floatless => ⟨trivial, listToJson_areIntegral items floatless, trivial⟩
  | .unresolved _, _ => ⟨trivial, trivial, trivial⟩

/-- The documents of several constants without floating-point numbers hold none either. -/
theorem listToJson_areIntegral : ∀ items : List Constant, areFloatless items = true →
    Json.AreIntegral (listToJson items)
  | [], _ => trivial
  | item :: rest, floatless => by
    rw [areFloatless, Bool.and_eq_true] at floatless
    exact ⟨toJson_isIntegral item floatless.1, listToJson_areIntegral rest floatless.2⟩

end

theorem int64_ofJson (value : Int64) : int64 (Reading.ofJson (.int value.toInt)) = .ok value := by
  have fits : Text.int64Min ≤ value.toInt ∧ value.toInt ≤ Text.int64Max :=
    ⟨value.le_toInt, Int.le_of_lt_add_one value.toInt_lt⟩
  have between : intBetween Text.int64Min Text.int64Max (Reading.ofJson (.int value.toInt)) =
      .ok value.toInt := if_pos fits
  rw [int64, between]
  exact congrArg Except.ok (Int64.ofInt_toInt value)

/-- The kind of a constant comes first, so that its value is read as one of that kind. -/
theorem restores_tagged (name : String) (kind : Kind) (named : (name, kind) ∈ Kind.cases)
    {value : Json} {constant : Constant}
    (reads : ∀ budget, value.depth ≤ budget →
      ofValue budget (decodeItems budget) kind (Reading.ofJson value) = .ok constant) :
    Restores decode (tagged name value) constant := by
  refine .opening (by rw [tagged, Json.depth]; exact Nat.succ_pos _) fun budget enough => ?_
  have within : value.depth ≤ budget := by
    simpa [tagged, Json.depth] using enough
  have asKind : decode (budget + 1) (Reading.ofJson (tagged name value)) =
      ofValue budget (decodeItems budget) kind (Reading.ofJson value) := by
    simp only [Kind.cases, List.mem_cons, Prod.mk.injEq, List.not_mem_nil, or_false] at named
    rcases named with ⟨rfl, rfl⟩ | ⟨rfl, rfl⟩ | ⟨rfl, rfl⟩ | ⟨rfl, rfl⟩ | ⟨rfl, rfl⟩ | ⟨rfl, rfl⟩ |
      ⟨rfl, rfl⟩ | ⟨rfl, rfl⟩ | ⟨rfl, rfl⟩ <;> rfl
  rw [asKind, reads budget within]

theorem restores_enum (typeName : String) (member : Option String) :
    Restores decodeEnum (.object [("typeName", .string typeName),
      ("member", Json.stringOrNull member)]) (.enum typeName member) := by
  refine .opening (by rw [Json.depth]; exact Nat.succ_pos _) fun budget _ => ?_
  have stated : Decoder.optional Decoder.string (Reading.ofJson (Json.stringOrNull member)) =
      .ok member := by
    cases member <;> rfl
  have read : record enumFields ("", none) (Reading.ofJson
      (.object [("typeName", .string typeName), ("member", Json.stringOrNull member)])) =
        .ok (typeName, member) :=
    record_of_fills (by decide) (.required rfl (.defaulted stated (.done _)))
  change (record enumFields ("", none) (Reading.ofJson (.object _))).map _ = _
  rw [read]
  rfl

mutual

/-- A constant is read back. -/
theorem restores : ∀ constant : Constant, Restores decode constant.toJson constant
  | .null => .opening (Nat.succ_pos _) fun _ _ => rfl
  | .string _ => restores_tagged "string" .string (by decide) fun _ _ => rfl
  | .int value => restores_tagged "int" .int (by decide) fun _ _ => by
    rw [ofValue, int64_ofJson]
    rfl
  | .float _ => restores_tagged "float" .float (by decide) fun _ _ => rfl
  | .bool _ => restores_tagged "bool" .bool (by decide) fun _ _ => rfl
  | .type _ => restores_tagged "type" .type (by decide) fun _ _ => rfl
  | .enum typeName member =>
    restores_tagged "enum" .enum (by decide) (restores_enum typeName member)
  | .array items => by
    have itemsRead := restores_items items
    refine restores_tagged "array" .array (by decide) fun budget enough => ?_
    rw [ofValue, itemsRead budget enough]
    rfl
  | .unresolved _ => restores_tagged "unresolved" .unresolved (by decide) fun _ _ => rfl

/-- Several constants are read back. -/
theorem restores_items : ∀ items : List Constant,
    Restores decodeItems (.array (listToJson items)) items
  | [] => .nil fun _ => rfl
  | item :: rest => .cons (fun _ => rfl) (restores item) (restores_items rest)

end

end Constant

namespace Attribute

mutual

/-- Whether the arguments of an attribute, and of those on its class, hold no floating-point
number. -/
def isFloatless : Attribute → Bool
  | ⟨_, _, _, _, classAttributes, arguments, namedArguments, _⟩ =>
    areFloatless classAttributes &&
      (arguments ++ namedArguments).all fun argument => argument.value.isFloatless

/-- Whether those of several attributes hold none. -/
def areFloatless : List Attribute → Bool
  | [] => true
  | attr :: rest => attr.isFloatless && areFloatless rest

end

theorem arguments_areIntegral {arguments : List Argument}
    (floatless : ∀ argument ∈ arguments, argument.value.isFloatless = true) (key : String) :
    Json.AreIntegral (arguments.map (argumentToJson key)) :=
  Json.areIntegral_map fun argument member =>
    ⟨trivial, argument.value.toJson_isIntegral (floatless argument member), trivial⟩

mutual

/-- The document of an attribute without floating-point numbers holds none either. -/
theorem toJson_isIntegral : ∀ attr : Attribute, attr.isFloatless = true → attr.toJson.IsIntegral
  | ⟨className, namespaceName, baseTypes, interfaces, classAttributes, arguments, namedArguments,
      location⟩, floatless => by
    rw [isFloatless, Bool.and_eq_true, List.all_append, Bool.and_eq_true, List.all_eq_true,
      List.all_eq_true] at floatless
    obtain ⟨onClass, inArguments, inNamed⟩ := floatless
    have append := @Json.membersAreIntegral_append
    have text := Json.membersAreIntegral_optionalText
    have strings : ∀ values : List String, Json.AreIntegral (values.map .string) := fun _ =>
      Json.areIntegral_map fun _ _ => trivial
    have list := @Json.membersAreIntegral_nonEmpty
    have name : Json.MembersAreIntegral [("className", .string className)] := ⟨trivial, trivial⟩
    rw [toJson]
    exact append (append (append (append (append (append (append name (text _ _))
      (list (strings baseTypes) _)) (list (strings interfaces) _))
      (list (listToJson_areIntegral classAttributes onClass) _))
      (list (arguments_areIntegral inArguments _) _))
      (list (arguments_areIntegral inNamed _) _)) (text _ _)

/-- The documents of several attributes without floating-point numbers hold none either. -/
theorem listToJson_areIntegral : ∀ attributes : List Attribute, areFloatless attributes = true →
    Json.AreIntegral (listToJson attributes)
  | [], _ => trivial
  | attr :: rest, floatless => by
    rw [areFloatless, Bool.and_eq_true] at floatless
    exact ⟨toJson_isIntegral attr floatless.1, listToJson_areIntegral rest floatless.2⟩

end

theorem nodup_argumentFields {key : String} (other : key ≠ "value") (budget : Nat) :
    ((argumentFields budget key).map (·.key)).Nodup := by
  change [key, "value"].Nodup
  simpa using other

/-- An argument is read back. -/
theorem restores_argument {key : String} (other : key ≠ "value") (argument : Argument) :
    Restores (decodeArgument key) (argumentToJson key argument) argument := by
  refine .record (fun _ => rfl) (nodup_argumentFields other) fun budget enough => ?_
  have reads := Constant.restores argument.value budget (by simpa [Json.depth] using enough)
  exact .required rfl (.required reads (.done _))

theorem nodup_fields (budget : Nat) :
    ((fields budget (decodeList budget)).map (·.key)).Nodup := by
  change ["className", "namespace", "baseTypes", "interfaces", "classAnnotations", "arguments",
    "namedArguments", "location"].Nodup
  decide

theorem listToJson_eq_nil {attributes : List Attribute} (empty : listToJson attributes = []) :
    attributes = [] := by
  cases attributes with
  | nil => rfl
  | cons first rest => cases empty

mutual

/-- An attribute is read back. -/
theorem restores : ∀ attr : Attribute, Restores decode attr.toJson attr
  | ⟨className, namespaceName, baseTypes, interfaces, classAttributes, arguments, namedArguments,
      location⟩ => by
    have onClass := restores_list classAttributes
    rw [toJson]
    simp only [List.append_assoc, List.cons_append, List.nil_append]
    refine .record (fun _ => rfl) nodup_fields fun budget enough => ?_
    simp only [Json.membersDepth_cons, Json.membersDepth_append, Nat.max_le] at enough
    obtain ⟨_, _, basesFit, interfacesFit, classFits, argumentsFit, namedFit, _⟩ := enough
    refine .required rfl ?_
    refine .optional rfl (fun _ => Reading.noConfusion) (fun _ _ => rfl) ?_
    refine .nonEmpty rfl List.map_eq_nil_iff.mp (Restores.strings baseTypes) basesFit ?_
    refine .nonEmpty rfl List.map_eq_nil_iff.mp (Restores.strings interfaces) interfacesFit ?_
    refine .nonEmpty rfl listToJson_eq_nil onClass classFits ?_
    refine .nonEmpty rfl List.map_eq_nil_iff.mp (Restores.list fun argument _ =>
      restores_argument (by decide) argument) argumentsFit ?_
    refine .nonEmpty rfl List.map_eq_nil_iff.mp (Restores.list fun argument _ =>
      restores_argument (by decide) argument) namedFit ?_
    exact .optionalLast rfl (fun _ => Reading.noConfusion) fun _ _ => rfl

/-- Several attributes are read back. -/
theorem restores_list : ∀ attributes : List Attribute,
    Restores decodeList (.array (listToJson attributes)) attributes
  | [] => .nil fun _ => rfl
  | attr :: rest => .cons (fun _ => rfl) (restores attr) (restores_list rest)

end

end Attribute

end WorkerBindings
