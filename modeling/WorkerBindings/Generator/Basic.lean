import WorkerBindings.Binding.Basic
import WorkerBindings.SymbolCache

/-!
# Binding generators

A generator turns one attribute on one target into bindings and diagnostics. It may look into the
symbol cache and has no other state.
-/

namespace WorkerBindings

/-- What an attribute stands on. -/
structure Target where
  /-- The name of the binding: that of the parameter or property, or `$return`. -/
  name : String
  type : DeclaredType
  location : Option String

/-- One attribute on one target, in the role that its bindings will have. -/
structure Request where
  attr : Attribute
  role : Role
  target : Target

/-- Where the diagnostics of a request point: to the target, else to the attribute. -/
def Request.location (request : Request) : Option String :=
  request.target.location <|> request.attr.location

/-- What a generator returns. -/
structure Output where
  bindings : List Binding
  diagnostics : List Diagnostic

namespace Output

/-- The output without bindings and diagnostics. -/
def empty : Output :=
  ⟨[], []⟩

/-- One output after another. -/
def append (first second : Output) : Output :=
  ⟨first.bindings ++ second.bindings, first.diagnostics ++ second.diagnostics⟩

instance : Append Output := ⟨append⟩

/-- Diagnostics alone. -/
def ofDiagnostics (diagnostics : List Diagnostic) : Output :=
  ⟨[], diagnostics⟩

/-- Whether one of the diagnostics is an error. -/
def hasErrors (output : Output) : Bool :=
  Diagnostic.hasErrors output.diagnostics

end Output

/-- A way to turn requests into bindings. -/
abbrev Generator := Request → StateM SymbolCache Output

end WorkerBindings
