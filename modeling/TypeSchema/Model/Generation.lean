import TypeSchema.Descriptor.Outline
import TypeSchema.Descriptor.Reachable
import TypeSchema.Generation
import TypeSchema.Model.Registration

/-!
# Schemas of models

The schema of a type that is built from models: its descriptor is validated, the documentation of
all it is built from is registered, and the descriptor is transformed.
-/

namespace TypeSchema.Models

variable (models : Models)

/-- The references of the descriptors that a type depends on. -/
abbrev Ref (t : TypeExpr) := {u : TypeRef // u ∈ models.definitions.typeRefs [t.typeRef]}

/-- The descriptors that a type depends on. -/
def graph (t : TypeExpr) : Graph (models.Ref t) := models.definitions.graph [t.typeRef]

/-- The reference of the type itself. -/
def root (t : TypeExpr) : models.Ref t :=
  ⟨t.typeRef, List.mem_append_left _ (by simp)⟩

/-- The descriptor of a type down to so many levels. -/
def outline (levels : Nat) (t : TypeExpr) : Outline := (models.graph t).outline levels (models.root t)

/-- The documentation that a registry has of the types that a type is built from. -/
def docsOf (registry : DocRegistry) (t : TypeExpr) : List (String × DocMetadata) :=
  ((models.graph t).identitiesFrom (models.root t)).filterMap fun identity =>
    (registry.get? identity).map fun doc => (identity, doc)

/-- The schema of a type. -/
def schema (config : GeneratorConfig) (t : TypeExpr) : Attempt Failure Schema := do
  let g := models.graph t
  let root := models.root t
  Attempt.mapError .validation (g.validate root)
  let registry ← ExceptT.lift (models.registry t)
  Attempt.emit (.generatingType (g.identity root) registry.size)
  Attempt.mapError .schema (g.schema registry config root)

end TypeSchema.Models
