import WorkerBindings.Json.Decoder
import WorkerBindings.Json.Text
import WorkerBindings.Text.Substitution

/-!
# Diagnostics

The catalogue of everything that can be wrong with a function, and the records that report it. Every
kind of problem has a code, a severity and a message template whose places are written `{0}`, `{1}`.
An error keeps its function out of the manifest; warnings and information never do.
-/

namespace WorkerBindings

/-- How serious a diagnostic is. -/
inductive Severity where
  | info
  | warning
  | error
  deriving Repr, DecidableEq

namespace Severity

/-- The severities by name. -/
def cases : List (String × Severity) :=
  [("info", .info), ("warning", .warning), ("error", .error)]

/-- The name of a severity. -/
def name : Severity → String
  | .info => "info"
  | .warning => "warning"
  | .error => "error"

/-- The place of a severity in ascending order. -/
def rank : Severity → Nat
  | .info => 0
  | .warning => 1
  | .error => 2

/-- The more serious of two severities. -/
def worse (left right : Severity) : Severity :=
  if left.rank < right.rank then right else left

end Severity

/-- The kinds of problem. -/
inductive Problem where
  | multipleBindings
  | symbolNotFound
  | invalidCardinality
  | invalidRetryOptions
  | invalidArgument
  | inconclusiveAttribute
  | invalidTriggerCount
  | asyncVoid
  | invalidBindingType
  | inconclusiveOutput
  | invalidRetryArgument
  deriving Repr, DecidableEq

/-- What the catalogue says about a kind of problem. -/
structure CatalogueEntry where
  code : String
  title : String
  severity : Severity
  template : String
  deriving Repr, DecidableEq

namespace Problem

/-- Every kind of problem, in the order of the codes. -/
def all : List Problem := [
  .multipleBindings, .symbolNotFound, .invalidCardinality, .invalidRetryOptions, .invalidArgument,
  .inconclusiveAttribute, .invalidTriggerCount, .asyncVoid, .invalidBindingType,
  .inconclusiveOutput, .invalidRetryArgument]

/-- The catalogue. -/
def entry : Problem → CatalogueEntry
  | .multipleBindings => {
      code := "FNM0005"
      title := "Multiple bindings grouped together"
      severity := .error
      template := "Only one {0} binding attribute is allowed on '{1}'." }
  | .symbolNotFound => {
      code := "FNM0006"
      title := "Symbol not found"
      severity := .warning
      template := "The symbol '{0}' could not be found." }
  | .invalidCardinality => {
      code := "FNM0008"
      title := "Invalid cardinality"
      severity := .error
      template := "The cardinality of the input or trigger binding on parameter '{0}' is " ++
        "invalid. IsBatched may be used incorrectly." }
  | .invalidRetryOptions => {
      code := "FNM0012"
      title := "Invalid retry options"
      severity := .error
      template := "Invalid use of a retry attribute. Check that the attribute is used on a " ++
        "trigger that supports function-level retry." }
  | .invalidArgument => {
      code := "FNM0013"
      title := "Invalid binding attribute argument"
      severity := .error
      template := "The value of the argument '{0}' could not be serialized for binding '{1}'." }
  | .inconclusiveAttribute => {
      code := "FNM0014"
      title := "Inconclusive attribute"
      severity := .error
      template := "Found more than one '{0}' attribute on '{1}'." }
  | .invalidTriggerCount => {
      code := "FNM0016"
      title := "Invalid trigger count"
      severity := .error
      template := "Functions must have exactly 1 trigger binding. The function has {0} triggers." }
  | .asyncVoid => {
      code := "FNM0018"
      title := "Async void is not allowed"
      severity := .error
      template := "Function '{0}' is async void. Return Task or ValueTask instead." }
  | .invalidBindingType => {
      code := "FNM0019"
      title := "Invalid binding type"
      severity := .error
      template := "Binding type does not allow {0} as {1} type." }
  | .inconclusiveOutput => {
      code := "FNM0020"
      title := "Inconclusive output binding"
      severity := .error
      template := "Function '{0}' declares output bindings on both the method and its return " ++
        "type properties." }
  | .invalidRetryArgument => {
      code := "FNM0021"
      title := "Invalid retry argument"
      severity := .error
      template := "Invalid retry, {0} must be {1}." }

/-- The stable code of a problem. -/
def code (problem : Problem) : String :=
  problem.entry.code

/-- The problems by code. -/
def cases : List (String × Problem) :=
  all.map fun problem => (problem.code, problem)

end Problem

/-- One reported problem. -/
structure Diagnostic where
  problem : Problem
  severity : Severity
  message : String
  location : Option String
  deriving Repr, DecidableEq

namespace Diagnostic

/-- The place of a template that takes the argument with this number. -/
def placeholder (index : Nat) : String :=
  "\x7b" ++ Text.ofNat index ++ "\x7d"

/-- Fill arguments into a template, one after another from the number `index` on. -/
def fillFrom (index : Nat) (message : String) : List String → String
  | [] => message
  | argument :: rest =>
    fillFrom (index + 1) (Text.replaceAll message (placeholder index) argument) rest

/-- Fill arguments into a template. -/
def fill (template : String) (arguments : List String) : String :=
  fillFrom 0 template arguments

/-- Report a problem with its severity and its message from the catalogue. -/
def report (problem : Problem) (location : Option String) (arguments : List String) : Diagnostic :=
  ⟨problem, problem.entry.severity, fill problem.entry.template arguments, location⟩

/-- Whether a diagnostic keeps its function out of the manifest. -/
def isError (diagnostic : Diagnostic) : Bool :=
  diagnostic.severity == .error

/-- Whether one of several diagnostics is an error. -/
def hasErrors (diagnostics : List Diagnostic) : Bool :=
  diagnostics.any isError

/-- The gravest severity among several diagnostics. -/
def worst? : List Diagnostic → Option Severity
  | [] => none
  | diagnostic :: rest =>
    match worst? rest with
    | some severity => some (diagnostic.severity.worse severity)
    | none => some diagnostic.severity

/-- The page that explains a kind of problem. -/
def helpLink (diagnostic : Diagnostic) : String :=
  "https://fnmeta.dev/rules/" ++ diagnostic.problem.code

/-- The severity and code that a diagnostic starts with. -/
def label (diagnostic : Diagnostic) : String :=
  s!"{diagnostic.severity.name}[{diagnostic.problem.code}]"

/-- A message followed by its location in parentheses, if it has one. -/
def messageAt (diagnostic : Diagnostic) : String :=
  match diagnostic.location with
  | some location => s!"{diagnostic.message} ({location})"
  | none => diagnostic.message

/-- A diagnostic on one line. -/
def line (diagnostic : Diagnostic) : String :=
  s!"{diagnostic.label}: {diagnostic.messageAt}"

/-- A diagnostic as a document. -/
def toJson (diagnostic : Diagnostic) : Json :=
  .object ([
    ("id", .string diagnostic.problem.code),
    ("severity", .string diagnostic.severity.name),
    ("message", .string diagnostic.message)] ++
    Json.optional "location" .string diagnostic.location)

/-- The fields of a diagnostic in a document. -/
def fields (budget : Nat) : List (Decoder.Field Diagnostic) := [
  Decoder.required "id" (Decoder.oneOf budget Problem.cases) fun value diagnostic =>
    { diagnostic with problem := value },
  Decoder.required "severity" (Decoder.oneOf budget Severity.cases) fun value diagnostic =>
    { diagnostic with severity := value },
  Decoder.required "message" Decoder.string fun value diagnostic =>
    { diagnostic with message := value },
  Decoder.defaulted "location" (Decoder.optional Decoder.string) fun value diagnostic =>
    { diagnostic with location := value }]

/-- A diagnostic from a document. -/
def decode (budget : Nat) : Decoder Diagnostic :=
  Decoder.nested budget fun inner =>
    Decoder.record (fields inner) ⟨.symbolNotFound, .info, "", none⟩

end Diagnostic

end WorkerBindings
