import WorkerBindings.Text.Lowercase
import WorkerBindings.Text.Substitution

/-!
# Names that the host's symbols use

The namespaces, classes and types that have a meaning of their own, and the ways in which names are
put together: keys in camel case, the type tag of an attribute class, and qualified names.
-/

namespace WorkerBindings.Names

/-- The namespace of the worker's own attributes. -/
def workerNamespace : String := "Microsoft.Azure.Functions.Worker"

/-- The namespace that binding extensions share. -/
def abstractionsNamespace : String := "Microsoft.Azure.Functions.Worker.Extensions.Abstractions"

/-- The attribute class that makes a method a function. -/
def functionClass : String := "FunctionAttribute"

/-- The attribute class of a fixed delay between retries. -/
def fixedDelayClass : String := "FixedDelayRetryAttribute"

/-- The attribute class of a growing delay between retries. -/
def backoffClass : String := "ExponentialBackoffRetryAttribute"

/-- The base class of all bindings. -/
def bindingBase : String := abstractionsNamespace ++ ".BindingAttribute"

/-- The base class of input bindings. -/
def inputBase : String := abstractionsNamespace ++ ".InputBindingAttribute"

/-- The base class of trigger bindings. -/
def triggerBase : String := abstractionsNamespace ++ ".TriggerBindingAttribute"

/-- The base class of output bindings. -/
def outputBase : String := abstractionsNamespace ++ ".OutputBindingAttribute"

/-- The interface of attribute classes whose bindings may be batched. -/
def cardinalityMarker : String := abstractionsNamespace ++ ".ISupportCardinality"

/-- The attribute on an attribute class that lists what its bindings can do. -/
def bindingCapabilities : String := abstractionsNamespace ++ ".BindingCapabilitiesAttribute"

/-- The capability of repeating a failed function call. -/
def functionLevelRetry : String := "FunctionLevelRetry"

/-- The type of a method without a result. -/
def void : String := "void"

/-- The type of texts, which is enumerable and never taken for a collection. -/
def string : String := "string"

/-- The awaitable wrappers. -/
def awaitableWrappers : List String :=
  ["System.Threading.Tasks.Task", "System.Threading.Tasks.ValueTask"]

/-- The interface of every collection. -/
def enumerable : String := "System.Collections.IEnumerable"

/-- The interface of collections with an element type. -/
def genericEnumerable : String := "System.Collections.Generic.IEnumerable"

/-- The interface of collections that arrive over time. -/
def asyncEnumerable : String := "System.Collections.Generic.IAsyncEnumerable"

/-- The name of an output binding that is declared on the method itself. -/
def returnBinding : String := "$return"

/-- A name with its first character in lower case. -/
def camelCase (name : String) : String :=
  match name.toList with
  | [] => ""
  | first :: rest => String.ofList (Text.lowercaseOf first ++ rest)

/-- The type tag of an attribute class: its name without any `Attribute` in it, in camel case. -/
def typeTag (className : String) : String :=
  camelCase (Text.replaceAll className "Attribute" "")

/-- A name in a namespace; an empty namespace counts as none. -/
def qualify (namespaceName : Option String) (name : String) : String :=
  match namespaceName with
  | some namespaceName => if namespaceName.isEmpty then name else s!"{namespaceName}.{name}"
  | none => name

end WorkerBindings.Names
