import WorkerBindings.Double.Basic

/-!
# JSON values

The values that documents are written from. An object keeps its members in the order in which it was
built, and a number remembers whether it is an integer or a double, because the two are written
differently.
-/

namespace WorkerBindings

/-- A JSON number. -/
inductive Number where
  | integer (value : Int)
  | double (value : Double)
  deriving Repr, DecidableEq

/-- A JSON value. -/
inductive Json where
  | null
  | bool (value : Bool)
  | number (value : Number)
  | string (value : String)
  | array (items : List Json)
  | object (members : List (String × Json))
  deriving Repr

namespace Json

/-- An integer as a JSON value. -/
def int (value : Int) : Json :=
  .number (.integer value)

/-- A natural number as a JSON value. -/
def nat (value : Nat) : Json :=
  .number (.integer value)

/-- A list of texts as a JSON array. -/
def strings (values : List String) : Json :=
  .array (values.map .string)

/-- The text if there is one, else null. -/
def stringOrNull : Option String → Json
  | some text => .string text
  | none => .null

/-- A member that is left out when there is no value for it. -/
def optional {α : Type} (key : String) (encode : α → Json) : Option α → List (String × Json)
  | some value => [(key, encode value)]
  | none => []

/-- A member that is left out when its list is empty. -/
def nonEmpty (key : String) : List Json → List (String × Json)
  | [] => []
  | items => [(key, .array items)]

end Json

end WorkerBindings
