import TypeSchema.Config
import TypeSchema.Descriptor
import TypeSchema.Registry
import TypeSchema.Schema
import TypeSchema.Validation

/-!
# Generating schemas

The schema of a type is the image of its descriptor, unfolded along items, values of maps and
fields. The unfolding ends because it may not go deeper than a limit. An object that is met inside
itself is refused.

The root lies at depth zero and every step goes one deeper. Whatever else is wrong with a
descriptor, lying too deep is reported first.
-/

namespace TypeSchema

namespace Primitive

/-- The schema of a plain value. -/
def schema : Primitive → Schema
  | string | char => .anyString
  | boolean => .anyBoolean
  | byte | short | int | long | float | double => .anyNumber

end Primitive

namespace Generator

variable {Ref : Type}

/-- The element of a list or set, which has one. -/
def item? (node : Node Ref) : Except SchemaError Ref :=
  match node.elements with
  | [item] => .ok item.target
  | elements => .error (.malformed node.identity 1 elements.length)

/-- The value of a map, which has two elements. -/
def value? (node : Node Ref) : Except SchemaError Ref :=
  match node.elements with
  | [_, value] => .ok value.target
  | elements => .error (.malformed node.identity 2 elements.length)

/-- The properties and the required names of an object, as far as its fields have been read. -/
structure Fields where
  /-- The properties, in the order in which their names first came. -/
  properties : List (String × Schema) := []
  /-- The names of those that must be there. -/
  required : List String := []

/-- Adds a field: its schema, with the text that its object has for it, under its name. The field
must be there if it has no default and cannot be absent. -/
def addField (text : Option String) (element : Element Ref) (nullable : Bool) (schema : Schema)
    (fields : Fields) : Fields where
  properties :=
    putEntry element.name
      (match text with | none => schema | some text => schema.withDescription text)
      fields.properties
  required :=
    if element.optional || nullable then fields.required else addName element.name fields.required

variable (g : Graph Ref) (docs : DocRegistry) (maxDepth : Nat)

/-- Reads the fields of an object, given how the schema of a part is made. -/
def readFields (schemaOf : Ref → Attempt SchemaError Schema) (identity : String) :
    List (Element Ref) → Fields → Attempt SchemaError Fields
  | [], fields => pure fields
  | element :: rest, fields => do
    let schema ← schemaOf element.target
    readFields schemaOf identity rest <|
      addField (docs.field? identity element.name) element (g.node element.target).nullable schema
        fields

/-- The schema of a descriptor, given how the schema of a part is made. `path` holds the identities
of the objects around it; the parts of an object lie inside that object too. -/
def schemaOfNode (schemaOf : List String → Ref → Attempt SchemaError Schema) (path : List String)
    (node : Node Ref) : Attempt SchemaError Schema :=
  match node.kind with
  | .primitive type => pure type.schema
  | .list | .set => do return .arrayOf (← schemaOf path (← Attempt.ofExcept (item? node)))
  | .map => do return .mapOf (← schemaOf path (← Attempt.ofExcept (value? node)))
  | .enumeration values => pure (.stringEnum values)
  | .polymorphic => pure .anyObject
  | .contextual => throw (.unsupportedKind node.identity)
  | .object =>
    if !node.eligible then throw (.notEligible node.identity)
    else if node.identity ∈ path then throw (.recursiveType node.identity)
    else do
      let fields ← readFields g docs (schemaOf (node.identity :: path)) node.identity node.elements
        {}
      return .object (docs.description? node.identity) (some fields.properties) fields.required
        none

/-- The schema of the type at a reference. `levels` says how many more levels may be entered; none
is left just below the deepest level that is allowed. -/
def schemaAt : (levels : Nat) → (path : List String) → Ref → Attempt SchemaError Schema
  | 0, _, r => throw (.depthExceeded (g.identity r) maxDepth)
  | levels + 1, path, r => do
    let node := g.node r
    Attempt.emit (.generating node.identity node.kind.label (maxDepth - levels))
    schemaOfNode g docs (schemaAt levels) path node

end Generator

namespace Graph

variable {Ref : Type}

/-- The schema of a type, whether it is valid or not. -/
def schema (g : Graph Ref) (docs : DocRegistry) (config : GeneratorConfig) (r : Ref) :
    Attempt SchemaError Schema :=
  Generator.schemaAt g docs config.maxDepth (config.maxDepth + 1) [] r

/-- The schema of a type that is validated first. -/
def generate (g : Graph Ref) (docs : DocRegistry) (config : GeneratorConfig) (r : Ref) :
    Attempt Failure Schema := do
  Attempt.mapError .validation (g.validate r)
  Attempt.mapError .schema (g.schema docs config r)

end Graph

end TypeSchema
