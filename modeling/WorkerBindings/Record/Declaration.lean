import WorkerBindings.Binding.Basic
import WorkerBindings.Retry.Policy

/-!
# Function declarations

A function that has passed every check: its names, its bindings in the order in which they are
written, and its retry policy.
-/

namespace WorkerBindings

/-- A function that is ready to be written into a manifest. -/
structure Declaration where
  functionName : String
  methodName : String
  containingType : String
  bindings : List Binding
  retry : Option RetryPolicy

namespace Declaration

/-- The first trigger. -/
def trigger? (declaration : Declaration) : Option Binding :=
  declaration.bindings.find? (·.role == .trigger)

/-- The output bindings in order. -/
def outputs (declaration : Declaration) : List Binding :=
  declaration.bindings.filter (·.role == .output)

/-- Whether the payload types of all bindings are known. -/
def isParsable (declaration : Declaration) : Bool :=
  declaration.bindings.all (·.isParsable)

end Declaration

end WorkerBindings
