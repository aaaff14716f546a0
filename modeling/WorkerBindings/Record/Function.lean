import WorkerBindings.Binding.Basic
import WorkerBindings.Retry.Policy

/-!
# Function records

What a manifest says about one function. A rich record carries the function's identity and its
bindings in structured form; a minimal record leaves both out and the host works from the raw
bindings, which every record has.
-/

namespace WorkerBindings

/-- The record of one function. -/
structure FunctionRecord where
  functionId : Option String
  isProxy : Option Bool
  language : String
  managedDependencyEnabled : Option Bool
  name : String
  entryPoint : String
  scriptFile : String
  rawBindings : List String
  generatedBindings : Option (List StructuredBinding)
  retry : Option RetryPolicy
  deriving DecidableEq

namespace FunctionRecord

/-- The language that every written record states. -/
def workerLanguage : String := "dotnet-isolated"

/-- Whether a record is rich. -/
def isRich (record : FunctionRecord) : Bool :=
  record.generatedBindings.isSome

/-- A record as a document. -/
def toJson (record : FunctionRecord) : Json :=
  .object (
    Json.optional "functionId" .string record.functionId ++
    Json.optional "isProxy" .bool record.isProxy ++
    [("language", .string record.language)] ++
    Json.optional "managedDependencyEnabled" .bool record.managedDependencyEnabled ++
    [("name", .string record.name),
      ("entryPoint", .string record.entryPoint),
      ("scriptFile", .string record.scriptFile),
      ("rawBindings", Json.strings record.rawBindings)] ++
    Json.optional "generatedBindings" (fun bindings => .array (bindings.map (·.toJson)))
      record.generatedBindings ++
    Json.optional "retry" RetryPolicy.toJson record.retry)

/-- The fields of a record in a document. -/
def fields (budget : Nat) : List (Decoder.Field FunctionRecord) := [
  Decoder.defaulted "functionId" (Decoder.optional Decoder.string) fun value record =>
    { record with functionId := value },
  Decoder.defaulted "isProxy" (Decoder.optional Decoder.bool) fun value record =>
    { record with isProxy := value },
  Decoder.required "language" Decoder.string fun value record => { record with language := value },
  Decoder.defaulted "managedDependencyEnabled" (Decoder.optional Decoder.bool) fun value record =>
    { record with managedDependencyEnabled := value },
  Decoder.required "name" Decoder.string fun value record => { record with name := value },
  Decoder.required "entryPoint" Decoder.string fun value record =>
    { record with entryPoint := value },
  Decoder.required "scriptFile" Decoder.string fun value record =>
    { record with scriptFile := value },
  Decoder.defaulted "rawBindings" (Decoder.list budget fun _ => Decoder.string) fun value record =>
    { record with rawBindings := value },
  Decoder.defaulted "generatedBindings"
    (Decoder.optional (Decoder.list budget StructuredBinding.decode)) fun value record =>
    { record with generatedBindings := value },
  Decoder.defaulted "retry" (Decoder.optional (RetryPolicy.decode budget)) fun value record =>
    { record with retry := value }]

/-- The record that decoding starts from. -/
def blank : FunctionRecord :=
  ⟨none, none, "", none, "", "", "", [], none, none⟩

/-- A record from a document. -/
def decode (budget : Nat) : Decoder FunctionRecord :=
  Decoder.nested budget fun inner => Decoder.record (fields inner) blank

end FunctionRecord

end WorkerBindings
