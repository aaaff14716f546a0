import WorkerBindings.Symbol.Attribute

/-!
# Capabilities of attribute classes

What an attribute class can be used for, read off its bases, its interfaces and the attributes on
the class itself. Nothing here depends on the arguments of one occurrence.
-/

namespace WorkerBindings

/-- What an attribute class can be used for. -/
structure Capabilities where
  /-- The class derives from one of the binding bases. -/
  isBinding : Bool
  isInput : Bool
  isOutput : Bool
  /-- The bindings of the class may be batched. -/
  supportsCardinality : Bool
  /-- The class lists function-level retry among what its bindings can do. -/
  supportsRetry : Bool
  deriving Repr, DecidableEq

mutual

/-- Whether a constant is the name of function-level retry or an array that holds it
at some depth. -/
def Constant.listsRetry : Constant → Bool
  | .string text => text == Names.functionLevelRetry
  | .array items => Constant.anyListsRetry items
  | _ => false

/-- Whether one of several constants lists function-level retry. -/
def Constant.anyListsRetry : List Constant → Bool
  | [] => false
  | item :: rest => item.listsRetry || Constant.anyListsRetry rest

end

/-- The capabilities of an attribute's class. -/
def Attribute.capabilities (attr : Attribute) : Capabilities where
  isBinding :=
    attr.inheritsFrom Names.inputBase || attr.inheritsFrom Names.outputBase ||
      attr.inheritsFrom Names.triggerBase || attr.inheritsFrom Names.bindingBase
  isInput := attr.inheritsFrom Names.inputBase
  isOutput := attr.inheritsFrom Names.outputBase
  supportsCardinality := attr.implements Names.cardinalityMarker
  supportsRetry :=
    attr.classAttributes.any fun onClass =>
      onClass.qualifiedName == Names.bindingCapabilities &&
        onClass.arguments.any fun argument => argument.value.listsRetry

end WorkerBindings
