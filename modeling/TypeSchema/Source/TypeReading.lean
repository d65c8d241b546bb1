import TypeSchema.Source.Syntax
import TypeSchema.TypeRef

/-!
# Reading type expressions

What a written type means for a schema depends on the last segment of its path alone: plain values,
containers and wrappers are known by name. References and parentheses say nothing. A type with type
arguments that is none of the containers is kept as it is written.
-/

namespace TypeSchema

open Source (ArgumentSyntax TypeSyntax Token Identifier)

/-- The plain values by the names of their types. -/
def Primitive.ofTypeName? (name : String) : Option Primitive :=
  if name ∈ ["String", "str"] then some .string
  else if name = "char" then some .char
  else if name = "bool" then some .boolean
  else if name ∈ ["i8", "u8"] then some .byte
  else if name ∈ ["i16", "u16"] then some .short
  else if name ∈ ["i32", "u32"] then some .int
  else if name ∈ ["i64", "u64", "isize", "usize"] then some .long
  else if name = "f32" then some .float
  else if name = "f64" then some .double
  else none

namespace TypeRef

/-- The names of wrappers that a value is not changed by. -/
def wrapperNames : List String := ["Box", "Arc", "Rc"]

/-- The names of lists. -/
def listNames : List String := ["Vec", "VecDeque"]

/-- The names of sets. They may be told how to hash. -/
def setNames : List String := ["HashSet", "BTreeSet", "IndexSet"]

/-- The names of maps. They may be told how to hash. -/
def mapNames : List String := ["HashMap", "BTreeMap", "IndexMap"]

/-- The container or wrapper of a name with its arguments. -/
def container? (name : String) (arguments : List TypeRef) : Option TypeRef :=
  match arguments with
  | [inner] =>
    if name = "Option" then some (.option inner)
    else if name ∈ wrapperNames then some inner
    else if name ∈ listNames then some (.list inner)
    else if name ∈ setNames then some (.set inner)
    else none
  | first :: second :: _ =>
    if name ∈ setNames then some (.set first)
    else if name ∈ mapNames then some (.map first second)
    else none
  | [] => none

/-- A type by the last segment of its path. Without type arguments it is a plain value or the name
of a definition. -/
def ofPath (last : Identifier) (arguments : List TypeRef) (tokens : List Token) : TypeRef :=
  if arguments.isEmpty then
    match Primitive.ofTypeName? last.text with
    | some type => .primitive type
    | none => .named last.name
  else (container? last.text arguments).getD (.unsupported (Token.textOf tokens))

mutual

/-- The meaning of a written type. -/
def ofSyntax : TypeSyntax → TypeRef
  | .path last arguments _ tokens => ofPath last (ofArguments arguments) tokens
  | .reference inner => ofSyntax inner
  | .parenthesized inner => ofSyntax inner
  | .slice item => .list (ofSyntax item)
  | .array item => .list (ofSyntax item)
  | .bound tokens => .unsupported (Token.textOf tokens)
  | .other tokens => .unsupported (Token.textOf tokens)

/-- The meanings of the types among arguments. -/
def ofArguments : List ArgumentSyntax → List TypeRef
  | [] => []
  | .type type :: rest => ofSyntax type :: ofArguments rest
  | .constant _ :: rest => ofArguments rest
  | .other :: rest => ofArguments rest

end

end TypeRef

end TypeSchema
