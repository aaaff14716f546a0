import WorkerBindings.Proofs.Json.Nesting
import WorkerBindings.Symbol.Constant

/-!
# The texts of constants

A constant has a text unless a part of it, at whatever depth, has none of its own. The text of an
array is the JSON array of the texts of its items. So the text of a part is found by its positions
alone: reading one array of texts after another, from the outermost to the innermost, leads to it
just as taking one item after another leads to the part.
-/

namespace WorkerBindings

namespace Decoder

/-- The texts in a JSON array of strings. -/
def texts (text : String) : Except DecodeError (List String) :=
  decodeText (fun budget => list budget fun _ => string) text

theorem texts_compact (values : List String) :
    texts (Json.strings values).compact = .ok values := by
  have integral : (Json.strings values).IsIntegral := Json.areIntegral_map fun _ _ => trivial
  have flat : Json.itemsDepth (values.map Json.string) = 0 := by
    clear integral
    induction values with
    | nil => rfl
    | cons value rest ih =>
      rw [List.map_cons, Json.itemsDepth, ih]
      rfl
  have shallow : (Json.strings values).depth ≤ maxNesting := by
    rw [Json.strings, Json.depth, flat]
    decide
  rw [texts, decodeText_compact _ integral]
  exact Restores.strings values maxNesting shallow

/-- The text that lies at a row of positions, each of them in an array of texts that is the text at
the positions before it. -/
def textAt? : String → List Nat → Option String
  | text, [] => some text
  | text, position :: rest => do
    let found ← (texts text).toOption
    let inner ← found[position]?
    textAt? inner rest

end Decoder

namespace Constant

/-- The part of a constant that lies at a row of positions, each of them in an array that is the
part at the positions before it. -/
def at? : Constant → List Nat → Option Constant
  | constant, [] => some constant
  | .array items, position :: rest => do
    let item ← items[position]?
    item.at? rest
  | _, _ :: _ => none

/-- Whether a constant has no text, whatever it may be a part of. -/
def isTextless : Constant → Bool
  | .null => true
  | .enum _ none => true
  | .unresolved _ => true
  | _ => false

theorem bindingText?_of_isTextless {constant : Constant} (textless : constant.isTextless = true) :
    constant.bindingText? = none := by
  cases constant with
  | null => rfl
  | unresolved source => rfl
  | enum typeName member =>
    cases member with
    | none => rfl
    | some member => cases textless
  | _ => cases textless

/-- Several constants have texts exactly if each has one. -/
theorem bindingTexts?_eq_some_iff {items : List Constant} {found : List String} :
    bindingTexts? items = some found ↔
      List.Forall₂ (fun item text => item.bindingText? = some text) items found := by
  induction items generalizing found with
  | nil => simp [bindingTexts?, eq_comm]
  | cons item rest ih =>
    rw [bindingTexts?, List.forall₂_cons_left_iff]
    simp only [Option.bind_eq_bind, Option.bind_eq_some_iff, Option.some.injEq, ih,
      eq_comm (b := found), exists_and_left]

/-- The text of an array is read as the texts of its items. -/
theorem texts_of_array {items : List Constant} {text : String}
    (stands : (Constant.array items).bindingText? = some text) :
    ∃ found, Decoder.texts text = .ok found ∧
      List.Forall₂ (fun item inner => item.bindingText? = some inner) items found := by
  rw [bindingText?] at stands
  obtain ⟨found, each, rfl⟩ := Option.map_eq_some_iff.mp stands
  exact ⟨found, Decoder.texts_compact found, bindingTexts?_eq_some_iff.mp each⟩

/-- In the text of a constant, the text of each of its parts lies at the positions of that part. -/
theorem textAt?_of_at? {constant part : Constant} {text : String} {path : List Nat}
    (stands : constant.bindingText? = some text) (here : constant.at? path = some part) :
    ∃ inner, part.bindingText? = some inner ∧ Decoder.textAt? text path = some inner := by
  induction path generalizing constant text with
  | nil =>
    rw [at?] at here
    cases here
    exact ⟨text, stands, by rw [Decoder.textAt?]⟩
  | cons position rest ih =>
    cases constant with
    | array items =>
      obtain ⟨item, atPosition, below⟩ := Option.bind_eq_some_iff.mp here
      obtain ⟨found, read, each⟩ := texts_of_array stands
      obtain ⟨itemText, itemFound, itemStands⟩ :
          ∃ itemText, found[position]? = some itemText ∧ item.bindingText? = some itemText := by
        obtain ⟨within, rfl⟩ := List.getElem?_eq_some_iff.mp atPosition
        have within' : position < found.length := each.length_eq ▸ within
        exact ⟨found[position], List.getElem?_eq_getElem within', each.get within within'⟩
      obtain ⟨inner, partStands, innerFound⟩ := ih itemStands below
      refine ⟨inner, partStands, ?_⟩
      rw [Decoder.textAt?, read]
      simp only [Except.toOption, Option.bind_eq_bind, Option.bind_some, itemFound, innerFound]
    | _ => cases here

mutual

/-- A constant without a text holds a part that has none of its own. -/
theorem exists_textless : ∀ constant : Constant, constant.bindingText? = none →
    ∃ path part, constant.at? path = some part ∧ part.isTextless = true
  | .null, _ => ⟨[], .null, rfl, rfl⟩
  | .enum typeName none, _ => ⟨[], .enum typeName none, rfl, rfl⟩
  | .unresolved source, _ => ⟨[], .unresolved source, rfl, rfl⟩
  | .array items, lacks => by
    rw [bindingText?, Option.map_eq_none_iff] at lacks
    obtain ⟨position, item, path, part, atPosition, below, textless⟩ :=
      exists_textless_item items lacks
    refine ⟨position :: path, part, ?_, textless⟩
    rw [at?, atPosition]
    exact below

/-- Of several constants that do not all have texts, one holds a part that has none of its own. -/
theorem exists_textless_item : ∀ items : List Constant, bindingTexts? items = none →
    ∃ (position : Nat) (item : Constant) (path : List Nat) (part : Constant),
      items[position]? = some item ∧ item.at? path = some part ∧ part.isTextless = true
  | item :: rest, lacks => by
    cases stands : item.bindingText? with
    | none =>
      obtain ⟨path, part, here, textless⟩ := exists_textless item stands
      exact ⟨0, item, path, part, rfl, here, textless⟩
    | some text =>
      have others : bindingTexts? rest = none := by
        rw [bindingTexts?, stands] at lacks
        cases later : bindingTexts? rest with
        | none => rfl
        | some texts =>
          rw [later] at lacks
          cases lacks
      obtain ⟨position, found, path, part, atPosition, here, textless⟩ :=
        exists_textless_item rest others
      exact ⟨position + 1, found, path, part, atPosition, here, textless⟩

end

theorem bindingText?_eq_none_iff (constant : Constant) :
    constant.bindingText? = none ↔
      ∃ path part, constant.at? path = some part ∧ part.isTextless = true := by
  constructor
  · exact exists_textless constant
  · rintro ⟨path, part, here, textless⟩
    cases stands : constant.bindingText? with
    | none => rfl
    | some text =>
      obtain ⟨inner, partStands, _⟩ := textAt?_of_at? stands here
      rw [bindingText?_of_isTextless textless] at partStands
      cases partStands

/-- A constant has no text exactly if it holds, at some depth, a null, an enumeration value without
a member or an expression that could not be evaluated. The text of an array is read, as a JSON array
of strings, as the texts of its items in their order; and reading on through the arrays inside leads
to the text of every part. -/
theorem bindingText_decodes (constant : Constant) :
    (constant.bindingText? = none ↔
      ∃ path part, constant.at? path = some part ∧ part.isTextless = true) ∧
    (∀ items text, constant = .array items → constant.bindingText? = some text →
      ∃ found, Decoder.texts text = .ok found ∧
        List.Forall₂ (fun item inner => item.bindingText? = some inner) items found) ∧
    ∀ text path part, constant.bindingText? = some text → constant.at? path = some part →
      ∃ inner, part.bindingText? = some inner ∧ Decoder.textAt? text path = some inner := by
  refine ⟨bindingText?_eq_none_iff constant, ?_,
    fun _ _ _ stands here => textAt?_of_at? stands here⟩
  rintro items text rfl stands
  exact texts_of_array stands

/-- An array with an array in it, whose first item has to be escaped at both levels. -/
def nested : Constant :=
  .array [.array [.string "é\"\n", .int 3], .enum "Access" (some "Listen")]

theorem bindingText_decodes_nested : ∃ text : String,
    nested.bindingText? = some text ∧ nested.at? [0, 0] = some (.string "é\"\n") ∧
      Decoder.texts text = .ok ["[\"é\\\"\\n\",\"3\"]", "Listen"] ∧
      Decoder.textAt? text [0, 0] = some "é\"\n" := by
  have stands : ∃ text, nested.bindingText? = some text := ⟨_, rfl⟩
  obtain ⟨text, stands⟩ := stands
  have here : nested.at? [0, 0] = some (.string "é\"\n") := rfl
  obtain ⟨_, decodes, leads⟩ := bindingText_decodes nested
  obtain ⟨found, read, each⟩ := decodes _ text rfl stands
  obtain ⟨inner, innerStands, innerFound⟩ := leads text [0, 0] _ stands here
  cases innerStands
  refine ⟨text, stands, here, ?_, innerFound⟩
  have same := bindingTexts?_eq_some_iff.mpr each
  have texts : bindingTexts? [.array [.string "é\"\n", .int 3], .enum "Access" (some "Listen")] =
      some ["[\"é\\\"\\n\",\"3\"]", "Listen"] := by
    decide +kernel
  rw [read]
  rw [texts] at same
  cases same
  rfl

end Constant

end WorkerBindings
