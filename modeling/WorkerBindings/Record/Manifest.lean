import WorkerBindings.Record.Function

/-!
# Manifests

The provider document of one module: where it belongs, when it was written, and the records of its
functions in order.
-/

namespace WorkerBindings

/-- The provider document of a module. -/
structure Manifest where
  providerNamespace : String
  assemblyName : String
  autoRegister : Bool
  generatedAt : String
  functions : List FunctionRecord
  deriving DecidableEq

namespace Manifest

/-- The ending of the file name of a manifest. -/
def fileSuffix : String := ".metadata.json"

/-- The file name under which the manifest of an assembly is written. -/
def fileName (assemblyName : String) : String :=
  assemblyName ++ fileSuffix

/-- A manifest as a document. -/
def toJson (manifest : Manifest) : Json :=
  .object [
    ("namespace", .string manifest.providerNamespace),
    ("assemblyName", .string manifest.assemblyName),
    ("autoRegister", .bool manifest.autoRegister),
    ("generatedAt", .string manifest.generatedAt),
    ("functions", .array (manifest.functions.map (·.toJson)))]

/-- The text of a manifest as it is written to a file. -/
def text (manifest : Manifest) : String :=
  manifest.toJson.pretty

/-- The fields of a manifest in a document. -/
def fields (budget : Nat) : List (Decoder.Field Manifest) := [
  Decoder.required "namespace" Decoder.string fun value manifest =>
    { manifest with providerNamespace := value },
  Decoder.required "assemblyName" Decoder.string fun value manifest =>
    { manifest with assemblyName := value },
  Decoder.defaulted "autoRegister" Decoder.bool fun value manifest =>
    { manifest with autoRegister := value },
  Decoder.required "generatedAt" Decoder.string fun value manifest =>
    { manifest with generatedAt := value },
  Decoder.defaulted "functions" (Decoder.list budget FunctionRecord.decode) fun value manifest =>
    { manifest with functions := value }]

/-- A manifest from a document. -/
def decode (budget : Nat) : Decoder Manifest :=
  Decoder.nested budget fun inner => Decoder.record (fields inner) ⟨"", "", false, "", []⟩

/-- A manifest from the text of a file. -/
def ofText (text : String) : Except DecodeError Manifest :=
  Decoder.decodeText decode text

end Manifest

end WorkerBindings
