import WorkerBindings.Generator.Standard

/-!
# The generator for HTTP triggers

HTTP triggers state who may call them and with which methods. Both arguments are checked before
anything is generated: the authorization level becomes one of five names, the methods have to be
texts that are not blank, and an empty list of methods is dropped so that the host uses its own.
What is then left is for the standard generator.
-/

namespace WorkerBindings.Generator

/-- The type tag of HTTP triggers. -/
def httpTag : String := "httpTrigger"

/-- The argument with the authorization level. -/
def levelKey : String := "authLevel"

/-- The argument with the methods. -/
def methodsKey : String := "methods"

/-- The authorization levels in the order of their numbers. -/
def levels : List String :=
  ["Anonymous", "User", "Function", "System", "Admin"]

/-- The level that a text names in any case. -/
def levelNamed? (text : String) : Option String :=
  levels.find? fun level => Text.sameIgnoringCase level text

/-- An authorization level by its proper name; null stays null. -/
def normalLevel? : Constant → Option Constant
  | .null => some .null
  | .int value => if value < 0 then none else levels[value.toInt.toNat]?.map .string
  | .enum _ (some member) => (levelNamed? member).map .string
  | .string text => (levelNamed? text).map .string
  | _ => none

/-- Whether a constant is a method: a text that is not blank. -/
def isMethod : Constant → Bool
  | .string text => !Text.isBlankText text
  | _ => false

/-- Whether a constant is null or a list of methods. -/
def validMethods : Constant → Bool
  | .null => true
  | .array items => items.all isMethod
  | _ => false

/-- Whether a constant is an empty list. -/
def isEmptyList : Constant → Bool
  | .array [] => true
  | _ => false

/-- An argument with its value checked, and its name if the value is refused. -/
def normalArgument (argument : Argument) : Except String Argument :=
  if Text.sameIgnoringCase argument.name levelKey then
    match normalLevel? argument.value with
    | some level => .ok { argument with value := level }
    | none => .error argument.name
  else if Text.sameIgnoringCase argument.name methodsKey then
    if validMethods argument.value then .ok argument else .error argument.name
  else .ok argument

/-- Whether an argument is kept: an empty list of methods is not. -/
def isKept (argument : Argument) : Bool :=
  !(Text.sameIgnoringCase argument.name methodsKey && isEmptyList argument.value)

/-- The attribute with its arguments in their normal form, or the name of the first one that is
refused. -/
def normalize (attr : Attribute) : Except String Attribute := do
  let arguments ← attr.arguments.mapM normalArgument
  let namedArguments ← attr.namedArguments.mapM normalArgument
  .ok { attr with
    arguments := arguments.filter isKept
    namedArguments := namedArguments.filter isKept }

/-- The generator for HTTP triggers. -/
def http : Generator := fun request =>
  match normalize request.attr with
  | .ok attr => standard { request with attr }
  | .error argument =>
    pure (Output.ofDiagnostics [Diagnostic.report .invalidArgument request.location
      [argument, request.target.name]])

end WorkerBindings.Generator
