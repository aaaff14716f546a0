import WorkerBindings.Json.Reading

/-!
# Decoding values from JSON

A decoder walks a reading from the left and stops at the first fault. Decoders of nested values take
a budget, the number of arrays and objects that may still be opened; a whole document starts with
`maxNesting`. A record is read from an object, whose unknown members are ignored and whose known
ones may come once each, or from an array that lists its fields in order.
-/

namespace WorkerBindings

/-- Why a text is not the document that was asked for. -/
inductive DecodeError where
  | malformed
  | invalidInterval (text : String)
  deriving Repr, DecidableEq

/-- What a decoder does with one value. -/
abbrev Decoder (α : Type) := Reading → Except DecodeError α

namespace Decoder

/-- The number of arrays and objects that may be open at one time. -/
def maxNesting : Nat := 127

/-- The decoder that accepts nothing. -/
def refuse {α : Type} : Decoder α :=
  fun _ => .error .malformed

/-- A string. -/
def string : Decoder String
  | .string value => .ok value
  | _ => .error .malformed

/-- A truth value. -/
def bool : Decoder Bool
  | .bool value => .ok value
  | _ => .error .malformed

/-- An integer of a range. -/
def intBetween (low high : Int) : Decoder Int
  | .number (.integer value) => if low ≤ value ∧ value ≤ high then .ok value else .error .malformed
  | _ => .error .malformed

/-- A signed 64-bit integer. -/
def int64 : Decoder Int64 :=
  fun reading => do
    let value ← intBetween Text.int64Min Text.int64Max reading
    .ok (Int64.ofInt value)

/-- An unsigned 32-bit integer. -/
def uint32 : Decoder UInt32 :=
  fun reading => do
    let value ← intBetween 0 4294967295 reading
    .ok (UInt32.ofNat value.toNat)

/-- A double; an integer is taken for the nearest one. -/
def double : Decoder Double
  | .number (.double value) => .ok value
  | .number (.integer value) =>
    match Double.ofNat? value.natAbs with
    | some magnitude => .ok (magnitude.withSign (value < 0))
    | none => .error .malformed
  | _ => .error .malformed

/-- Null, or a value. -/
def optional {α : Type} (item : Decoder α) : Decoder (Option α)
  | .null => .ok none
  | reading => (item reading).map some

/-- Every item of an array. -/
def items {α : Type} (item : Decoder α) : Decoder (List α)
  | .array readings => readings.mapM item
  | _ => .error .malformed

/-- A value that opens an array or object, read with what is left of the budget after that. -/
def nested {α : Type} (budget : Nat) (inside : Nat → Decoder α) : Decoder α :=
  match budget with
  | 0 => refuse
  | budget + 1 => inside budget

/-- A list. -/
def list {α : Type} (budget : Nat) (item : Nat → Decoder α) : Decoder (List α) :=
  nested budget fun inner => items (item inner)

/-- A value that is read and dropped: all that matters is that the text goes on after it. -/
def ignored : Decoder Unit :=
  fun reading => if reading.hasCut then .error .malformed else .ok ()

/-- One field of a record. -/
structure Field (α : Type) where
  key : String
  required : Bool
  /-- Decode a value and put it into the record. -/
  store : Reading → α → Except DecodeError α

/-- A field that has to be there. -/
def required {α β : Type} (key : String) (item : Decoder β) (put : β → α → α) : Field α :=
  ⟨key, true, fun reading record => (item reading).map (put · record)⟩

/-- A field that keeps its default value when it is left out. -/
def defaulted {α β : Type} (key : String) (item : Decoder β) (put : β → α → α) : Field α :=
  ⟨key, false, fun reading record => (item reading).map (put · record)⟩

/-- Take one member into a record; the keys already seen are kept beside it. -/
def storeMember {α : Type} (fields : List (Field α)) (state : α × List String)
    (member : Option String × Reading) : Except DecodeError (α × List String) :=
  match member.1 with
  | none => .error .malformed
  | some key =>
    match fields.find? (·.key == key) with
    | none => (ignored member.2).map fun _ => state
    | some field =>
      if state.2.contains key then .error .malformed
      else (field.store member.2 state.1).map fun record => (record, key :: state.2)

/-- Take the items of an array as the fields of a record, in their order. -/
def storeItems {α : Type} : List (Field α) → List Reading → α → Except DecodeError α
  | [], [], record => .ok record
  | [], _ :: _, _ => .error .malformed
  | field :: fields, [], record =>
    if field.required then .error .malformed else storeItems fields [] record
  | field :: fields, item :: rest, record => do
    let record ← field.store item record
    storeItems fields rest record

/-- A record that starts out as `blank`. -/
def record {α : Type} (fields : List (Field α)) (blank : α) : Decoder α
  | .object members => do
    let (record, seen) ← members.foldlM (storeMember fields) (blank, [])
    if fields.all fun field => !field.required || seen.contains field.key then .ok record
    else .error .malformed
  | .array readings => storeItems fields readings blank
  | _ => .error .malformed

/-- One of several cases by its name. A case may also be written as an object whose only member has
the name as its key and null as its value. -/
def oneOf {α : Type} (budget : Nat) (cases : List (String × α)) : Decoder α := fun reading =>
  let found (name : String) : Except DecodeError α :=
    match cases.find? (·.1 == name) with
    | some (_, value) => .ok value
    | none => .error .malformed
  match reading, budget with
  | .string name, _ => found name
  | .object [(some name, .null)], _ + 1 => found name
  | _, _ => .error .malformed

/-- Insert a member into members that are sorted by key; a key that is there gets the new value. -/
def insertSorted (key : String) (value : Json) : List (String × Json) → List (String × Json)
  | [] => [(key, value)]
  | (other, old) :: rest =>
    if key = other then (key, value) :: rest
    else if key < other then (key, value) :: (other, old) :: rest
    else (other, old) :: insertSorted key value rest

mutual

/-- Any value. The members of its objects are sorted by key, and of equal keys the
last one counts. -/
def value : Nat → Decoder Json
  | _, .null => .ok .null
  | _, .bool value => .ok (.bool value)
  | _, .number value => .ok (.number value)
  | _, .string value => .ok (.string value)
  | budget + 1, .array readings => (values budget readings).map .array
  | budget + 1, .object members => (valueMembers budget members []).map .object
  | _, _ => .error .malformed

/-- Several values. -/
def values : Nat → List Reading → Except DecodeError (List Json)
  | _, [] => .ok []
  | budget, reading :: rest => do
    let first ← value budget reading
    let others ← values budget rest
    .ok (first :: others)

/-- Several members, added to those read before. -/
def valueMembers : Nat → List (Option String × Reading) → List (String × Json) →
    Except DecodeError (List (String × Json))
  | _, [], found => .ok found
  | _, (none, _) :: _, _ => .error .malformed
  | budget, (some key, reading) :: rest, found => do
    let member ← value budget reading
    valueMembers budget rest (insertSorted key member found)

end

/-- Decode a whole text. What follows the value is looked at last. -/
def decodeText {α : Type} (decoder : Nat → Decoder α) (text : String) : Except DecodeError α := do
  let document := Reading.ofText text
  let decoded ← decoder maxNesting document.value
  if document.complete then .ok decoded else .error .malformed

end Decoder

end WorkerBindings
