import TypeSchema.Descriptor
import TypeSchema.Text.Quoted

/-!
# Outlines

The outline of a type shows its descriptor and those of its parts down to a number of levels. An
element by itself is shown on one line, without its type.
-/

namespace TypeSchema

/-- A descriptor with the outlines of its parts, unless no level is left for them. -/
inductive Outline where
  /-- The descriptor, its elements' references left out, and its parts. -/
  | mk (node : Node Unit) (parts : Option (List Outline))

/-- One line that shows an element; its type is left out. -/
def Element.summary {Ref : Type} (e : Element Ref) : String :=
  "Element \x7b name: " ++ Text.quoted e.name ++ s!", optional: {e.optional}" ++
    ", descriptor: LazyDescriptor(..) \x7d"

namespace Node

/-- The descriptor without what its elements refer to. -/
def forget {Ref : Type} (node : Node Ref) : Node Unit :=
  { node with elements := node.elements.map fun e => { e with target := () } }

end Node

namespace Graph

variable {Ref : Type} (g : Graph Ref)

/-- The outline of a type with the given number of levels below it. -/
def outline : (levels : Nat) → Ref → Outline
  | 0, r => .mk (g.node r).forget none
  | levels + 1, r => .mk (g.node r).forget (some ((g.children r).map (outline levels)))

end Graph

end TypeSchema
