import Std.Data.ExtTreeMap

/-!
# Content types

A host program has handlers, each of which may back a content type of the repository. A type filter
that names a handler is compiled to the content type registered for it.
-/

namespace ContentQuery

/-- A handler. Its qualified name is for messages only; two handlers may share one. -/
structure Handler where
  id : Nat
  name : String
deriving DecidableEq, Repr

/-- A map from the identities of handlers to content type names. -/
structure TypeRegistry where
  names : Std.ExtTreeMap Nat String
deriving DecidableEq

namespace TypeRegistry

/-- The registry that knows no handler. -/
def empty : TypeRegistry := ⟨∅⟩

/-- Registers a content type for a handler; an earlier one gives way. -/
def register (registry : TypeRegistry) (handler : Handler) (contentType : String) : TypeRegistry :=
  ⟨registry.names.insert handler.id contentType⟩

/-- The content type registered for a handler. -/
def typeName? (registry : TypeRegistry) (handler : Handler) : Option String :=
  registry.names[handler.id]?

@[simp]
theorem typeName?_empty (handler : Handler) : empty.typeName? handler = none := by
  simp [empty, typeName?]

theorem typeName?_register (registry : TypeRegistry) (handler : Handler) (contentType : String)
    (wanted : Handler) :
    (registry.register handler contentType).typeName? wanted =
      if handler.id = wanted.id then some contentType else registry.typeName? wanted := by
  simp [register, typeName?, Std.ExtTreeMap.getElem?_insert]

end TypeRegistry

end ContentQuery
