/-!
# Descriptors

A descriptor says how values of a type are built. It is a node of a graph: it has an identity, a
kind, and elements that refer to the nodes of other types. A type may contain itself, so the graph
may have cycles, and it is finite.
-/

namespace TypeSchema

/-- The kinds of plain values. -/
inductive Primitive where
  | string
  | char
  | boolean
  | byte
  | short
  | int
  | long
  | float
  | double
  deriving Repr, DecidableEq

namespace Primitive

/-- All of them. -/
def all : List Primitive := [string, char, boolean, byte, short, int, long, float, double]

/-- The name, which is also the identity of the descriptor. -/
def name : Primitive → String
  | string => "String"
  | char => "Char"
  | boolean => "Boolean"
  | byte => "Byte"
  | short => "Short"
  | int => "Int"
  | long => "Long"
  | float => "Float"
  | double => "Double"

/-- The one with a given name. -/
def ofName? (name : String) : Option Primitive := all.find? fun p => p.name == name

/-- Is the value a number? -/
def isNumeric : Primitive → Bool
  | string | char | boolean => false
  | _ => true

end Primitive

/-- How the values of a type are built. -/
inductive Kind where
  /-- A plain value. -/
  | primitive (type : Primitive)
  /-- A list; its one element describes the items. -/
  | list
  /-- A set; its one element describes the items. -/
  | set
  /-- A map; its two elements describe keys and values. -/
  | map
  /-- An object; its elements are its fields. -/
  | object
  /-- One of a list of names. -/
  | enumeration (values : List String)
  /-- One of several shapes. -/
  | polymorphic
  /-- A type of which only the name is known. -/
  | contextual
  deriving Repr, DecidableEq

namespace Kind

/-- The name of a kind. -/
def label : Kind → String
  | primitive _ => "primitive"
  | list => "list"
  | set => "set"
  | map => "map"
  | object => "object"
  | enumeration _ => "enum"
  | polymorphic => "polymorphic"
  | contextual => "contextual"

/-- The names of an enumeration; no other kind has any. -/
def values : Kind → List String
  | enumeration values => values
  | _ => []

/-- Is it a plain value? -/
def isPrimitive : Kind → Bool
  | primitive _ => true
  | _ => false

end Kind

/-- A part of a type: the item of a list, the key or the value of a map, a field of an object. -/
structure Element (Ref : Type) where
  /-- The name of the part. -/
  name : String
  /-- May the part be left out because it has a default? -/
  optional : Bool := false
  /-- The type of the part. -/
  target : Ref
  deriving Repr, DecidableEq

/-- The descriptor of a type, whose elements refer to types by values of `Ref`. -/
structure Node (Ref : Type) where
  /-- The name by which the type is told from others. -/
  identity : String
  /-- How its values are built. -/
  kind : Kind
  /-- May a value be absent? -/
  nullable : Bool := false
  /-- Has the type asked for a schema? -/
  eligible : Bool := false
  /-- Its parts, in order. -/
  elements : List (Element Ref) := []
  deriving Repr, DecidableEq

namespace Node

variable {Ref : Type}

/-- The descriptor of a plain value. -/
def primitive (type : Primitive) : Node Ref := { identity := type.name, kind := .primitive type }

/-- The identity of lists of items with a given identity. -/
def listIdentity (item : String) : String := "List<" ++ item ++ ">"

/-- The identity of sets of items with a given identity. -/
def setIdentity (item : String) : String := "Set<" ++ item ++ ">"

/-- The identity of maps with given identities of keys and values. -/
def mapIdentity (key value : String) : String := "Map<" ++ key ++ ", " ++ value ++ ">"

/-- Lists of a type, given with its identity. -/
def list (item : Ref) (identity : String) : Node Ref :=
  { identity := listIdentity identity, kind := .list, elements := [⟨"item", false, item⟩] }

/-- Sets of a type, given with its identity. -/
def set (item : Ref) (identity : String) : Node Ref :=
  { identity := setIdentity identity, kind := .set, elements := [⟨"item", false, item⟩] }

/-- Maps from one type to another, each given with its identity. -/
def map (key : Ref) (keyIdentity : String) (value : Ref) (valueIdentity : String) : Node Ref :=
  { identity := mapIdentity keyIdentity valueIdentity, kind := .map,
    elements := [⟨"key", false, key⟩, ⟨"value", false, value⟩] }

/-- A type of which only the name is known. -/
def contextual (name : String) : Node Ref := { identity := name, kind := .contextual }

/-- The names of the elements. -/
def elementNames (node : Node Ref) : List String := node.elements.map Element.name

end Node

/-- A finite graph of descriptors: every reference stands for one. -/
structure Graph (Ref : Type) where
  /-- The references. -/
  refs : List Ref
  /-- They are all there are. -/
  mem_refs : ∀ r, r ∈ refs
  /-- The descriptor a reference stands for. -/
  node : Ref → Node Ref

namespace Graph

variable {Ref : Type} (g : Graph Ref)

/-- The identity of the type a reference stands for. -/
def identity (r : Ref) : String := (g.node r).identity

/-- The types of the elements, in order. -/
def children (r : Ref) : List Ref := (g.node r).elements.map Element.target

/-- The graph of descriptors given for all of a type, cut down to a finite list of references that
the elements do not lead out of. -/
def ofClosed (node : Ref → Node Ref) (refs : List Ref)
    (closed : ∀ r ∈ refs, ∀ e ∈ (node r).elements, e.target ∈ refs) :
    Graph {r : Ref // r ∈ refs} where
  refs := refs.attach
  mem_refs r := List.mem_attach refs r
  node r :=
    { node r.1 with
      elements := (node r.1).elements.attach.map fun e =>
        { name := e.1.name, optional := e.1.optional,
          target := ⟨e.1.target, closed r.1 r.2 e.1 e.2⟩ } }

end Graph

end TypeSchema
