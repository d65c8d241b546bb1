import TypeSchema.TypeRef

/-!
# Type expressions of models

A model is a type that describes itself. The types of its fields are built from plain values,
standard containers and wrappers, and other models. Each such expression has a full name, by which
models are told apart, and it stands for a type expression by name: containers and wrappers of one
kind mean the same.
-/

namespace TypeSchema.Model

/-- The types of plain values. -/
inductive Scalar where
  | string
  | str
  | char
  | bool
  | i8
  | u8
  | i16
  | u16
  | i32
  | u32
  | i64
  | u64
  | isize
  | usize
  | f32
  | f64
  deriving Repr, DecidableEq

namespace Scalar

/-- All of them. -/
def all : List Scalar :=
  [string, str, char, bool, i8, u8, i16, u16, i32, u32, i64, u64, isize, usize, f32, f64]

/-- The name as it is written. -/
def name : Scalar → String
  | string => "String"
  | str => "str"
  | char => "char"
  | bool => "bool"
  | i8 => "i8"
  | u8 => "u8"
  | i16 => "i16"
  | u16 => "u16"
  | i32 => "i32"
  | u32 => "u32"
  | i64 => "i64"
  | u64 => "u64"
  | isize => "isize"
  | usize => "usize"
  | f32 => "f32"
  | f64 => "f64"

/-- The full name. -/
def fullName : Scalar → String
  | string => "alloc::string::String"
  | s => s.name

/-- The plain value. -/
def primitive : Scalar → Primitive
  | string | str => .string
  | char => .char
  | bool => .boolean
  | i8 | u8 => .byte
  | i16 | u16 => .short
  | i32 | u32 => .int
  | i64 | u64 | isize | usize => .long
  | f32 => .float
  | f64 => .double

/-- The one with a given name. -/
def ofName? (name : String) : Option Scalar := all.find? fun s => s.name == name

end Scalar

/-- The containers and wrappers of one type. -/
inductive Container where
  /-- A value that may be absent. -/
  | option
  | box
  | arc
  | rc
  | vec
  | vecDeque
  | slice
  | hashSet
  | treeSet
  | indexSet
  deriving Repr, DecidableEq

namespace Container

/-- Those that have a name. -/
def named : List Container :=
  [option, box, arc, rc, vec, vecDeque, hashSet, treeSet, indexSet]

/-- The name as it is written; a slice has none. -/
def name : Container → String
  | option => "Option"
  | box => "Box"
  | arc => "Arc"
  | rc => "Rc"
  | vec => "Vec"
  | vecDeque => "VecDeque"
  | slice => ""
  | hashSet => "HashSet"
  | treeSet => "BTreeSet"
  | indexSet => "IndexSet"

/-- The module that a container stands in. -/
def home : Container → String
  | option => "core::option"
  | box => "alloc::boxed"
  | arc => "alloc::sync"
  | rc => "alloc::rc"
  | vec => "alloc::vec"
  | vecDeque => "alloc::collections::vec_deque"
  | slice => ""
  | hashSet => "std::collections::hash::set"
  | treeSet => "alloc::collections::btree::set"
  | indexSet => "indexmap::set"

/-- The full name of the container of a type with a full name. -/
def fullName (c : Container) (inner : String) : String :=
  if c = slice then "[" ++ inner ++ "]" else c.home ++ "::" ++ c.name ++ "<" ++ inner ++ ">"

/-- What the container of a type means. -/
def typeRef (c : Container) (inner : TypeRef) : TypeRef :=
  match c with
  | option => .option inner
  | box | arc | rc => inner
  | vec | vecDeque | slice => .list inner
  | hashSet | treeSet | indexSet => .set inner

end Container

/-- The containers of two types. -/
inductive MapContainer where
  | hashMap
  | treeMap
  | indexMap
  deriving Repr, DecidableEq

namespace MapContainer

/-- All of them. -/
def all : List MapContainer := [hashMap, treeMap, indexMap]

/-- The name as it is written. -/
def name : MapContainer → String
  | hashMap => "HashMap"
  | treeMap => "BTreeMap"
  | indexMap => "IndexMap"

/-- The module that a container stands in. -/
def home : MapContainer → String
  | hashMap => "std::collections::hash::map"
  | treeMap => "alloc::collections::btree::map"
  | indexMap => "indexmap::map"

end MapContainer

end TypeSchema.Model

namespace TypeSchema

/-- A type expression of models. -/
inductive TypeExpr where
  /-- A plain value. -/
  | scalar (type : Model.Scalar)
  /-- A container or wrapper of one type. -/
  | container (container : Model.Container) (inner : TypeExpr)
  /-- A map. -/
  | map (container : Model.MapContainer) (key value : TypeExpr)
  /-- A model, by its full name. -/
  | model (name : String)
  deriving Repr, DecidableEq, Inhabited

namespace Model.Container

/-- The descriptor of a container, from the type in it and the descriptor of that type. -/
def descriptor (c : Container) (inner : TypeExpr) (node : Node TypeExpr) : Node TypeExpr :=
  match c with
  | option => { node with nullable := true }
  | box | arc | rc => node
  | vec | vecDeque | slice => .list inner node.identity
  | hashSet | treeSet | indexSet => .set inner node.identity

end Model.Container

namespace TypeExpr

/-- The full name of a type. -/
def fullName : TypeExpr → String
  | scalar type => type.fullName
  | container c inner => c.fullName inner.fullName
  | map c key value =>
    c.home ++ "::" ++ c.name ++ "<" ++ key.fullName ++ ", " ++ value.fullName ++ ">"
  | model name => name

/-- The descriptor that a type gives itself. A model is known by its name alone. -/
def descriptor : TypeExpr → Node TypeExpr
  | scalar type => .primitive type.primitive
  | container c inner => c.descriptor inner inner.descriptor
  | map _ key value => .map key key.descriptor.identity value value.descriptor.identity
  | model name => .contextual name

/-- What a type means by itself: models by their names. -/
def typeRef : TypeExpr → TypeRef
  | scalar type => .primitive type.primitive
  | container c inner => c.typeRef inner.typeRef
  | map _ key value => .map key.typeRef value.typeRef
  | model name => .named name

/-- The number of types and of the joints between them in a type expression: a map counts more than
its key and its value, each followed by one more. -/
def size : TypeExpr → Nat
  | scalar _ => 1
  | container _ inner => inner.size + 1
  | map _ key value => key.size + value.size + 2
  | model _ => 1

end TypeExpr

end TypeSchema
