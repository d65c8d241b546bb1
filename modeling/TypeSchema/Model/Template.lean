import TypeSchema.Derive.Expansion
import TypeSchema.Model.Table
import TypeSchema.Source.Definition
import TypeSchema.Source.Grammar

/-!
# Templates of models

A type definition may have parameters; then it is a template, and every choice of arguments makes a
model of its own. The templates of a module are read from its text. A written type is read against
them: it stands for a type expression, and it asks for the models that it names.
-/

namespace TypeSchema.Model

open Source (ArgumentSyntax Identifier ParameterKind TypeSyntax)

/-- What a parameter of a template can stand for. -/
inductive Argument where
  /-- A type. -/
  | type (type : TypeExpr)
  /-- A constant, as it is written. -/
  | constant (text : String)
  deriving Repr, DecidableEq

/-- The full name of an argument. -/
def Argument.fullName : Argument → String
  | .type t => t.fullName
  | .constant text => text

/-- A type definition whose parameters are open. -/
inductive Template where
  /-- A type that derives its description. -/
  | derived (parameters : List String) (expansion : Expansion)
  /-- A type without parameters whose description is written by hand. -/
  | handwritten (identity : String) (shape : ModelShape)

/-- The names of the parameters. -/
def Template.parameters : Template → List String
  | derived parameters _ => parameters
  | handwritten _ _ => []

/-- A template and arguments for its parameters. -/
structure Instance where
  /-- The name of the template. -/
  name : String
  /-- The arguments. -/
  arguments : List Argument
  deriving Repr, DecidableEq

/-- The full name of the model, given the path of the module that its template stands in. -/
def Instance.fullName (path : String) (i : Instance) : String :=
  path ++ "::" ++ i.name ++
    if i.arguments.isEmpty then ""
    else "<" ++ String.intercalate ", " (i.arguments.map Argument.fullName) ++ ">"

/-- The type definitions of a module. -/
structure Module where
  /-- The path of the module. -/
  path : String
  /-- The templates by name. -/
  templates : OrderedMap Template

/-- A step of reading, which adds to the models that are asked for and may fail. -/
abbrev Reading := StateT (List Instance) Option

namespace Module

/-- The types that derive a schema in the text of a module, if all of them can. -/
def ofText? (path text : String) : Option Module := do
  let definitions ← Source.definitions? text
  let derived := definitions.filter fun d => d.attributes.any (·.derives schemaTrait)
  let templates ← derived.mapM fun d => do
    let expansion ← (Expansion.ofSyntax d).toOption
    let parameters := d.generics.parameters.filterMap fun p =>
      match p.kind, p.name with
      | .lifetime, _ => none
      | _, .word name _ => some name
      | _, _ => none
    return (d.name.name, Template.derived parameters expansion)
  return { path, templates := .ofList templates }

/-- Adds a type whose description is written by hand. -/
def addHandwritten (m : Module) (name identity : String) (shape : ModelShape) : Module :=
  { m with templates := m.templates.insert name (.handwritten identity shape) }

/-! ## Reading types -/

/-- The container or wrapper of a name. -/
def container? (name : String) : List Argument → Option TypeExpr
  | [] => (Scalar.ofName? name).map .scalar
  | [.type inner] => (Container.named.find? fun c => c.name == name).map (.container · inner)
  | [.type key, .type value] =>
    (MapContainer.all.find? fun c => c.name == name).map (.map · key value)
  | _ => none

/-- What a name with arguments stands for: a parameter, a template of the module, or one of the
types that are known everywhere. -/
def resolve (m : Module) (parameters : List (String × Argument)) (name : String)
    (arguments : List Argument) : Reading Argument :=
  match if arguments.isEmpty then parameters.lookup name else none with
  | some argument => pure argument
  | none =>
    match m.templates.get? name with
    | some template => do
      if template.parameters.length ≠ arguments.length then failure
      let i : Instance := ⟨name, arguments⟩
      modify (· ++ [i])
      return .type (.model (i.fullName m.path))
    | none => do return .type (← container? name arguments)

mutual

/-- Reads a written type. A name alone may be that of a constant. -/
def read (m : Module) (parameters : List (String × Argument)) : TypeSyntax → Reading Argument
  | .path last arguments _ _ => do
    m.resolve parameters last.name (← readArguments m parameters arguments)
  | .parenthesized inner => read m parameters inner
  | .slice item => do
    match ← read m parameters item with
    | .type item => return .type (.container .slice item)
    | .constant _ => failure
  | _ => failure

/-- Reads the arguments of a type. -/
def readArguments (m : Module) (parameters : List (String × Argument)) :
    List ArgumentSyntax → Reading (List Argument)
  | [] => return []
  | .type type :: rest => do
    let first ← read m parameters type
    return first :: (← readArguments m parameters rest)
  | .constant tokens :: rest => do
    return .constant (Source.Token.textOf tokens) :: (← readArguments m parameters rest)
  | .other :: _ => failure

end

/-- Reads a type, which is no constant. -/
def readType (m : Module) (parameters : List (String × Argument)) (t : TypeSyntax) :
    Reading TypeExpr := do
  match ← m.read parameters t with
  | .type type => return type
  | .constant _ => failure

/-! ## Making models -/

/-- The shape of a model, given its arguments by the names of the parameters. -/
def readShape (m : Module) (parameters : List (String × Argument)) :
    Derive.Shape → Reading ModelShape
  | .object fields => do
    let fields ← fields.mapM fun field => do
      return { name := field.name.name, type := ← m.readType parameters field.type,
               optional := field.optional : ModelField }
    return .object fields
  | .enumeration values => return .enumeration values
  | .polymorphic => return .polymorphic

/-- The model of a template with arguments. -/
def model (m : Module) (i : Instance) : Reading Model := do
  match ← m.templates.get? i.name with
  | .handwritten identity shape => return .handwritten identity shape
  | .derived parameters expansion =>
    return .derived (← m.readShape (parameters.zip i.arguments) expansion.shape) expansion.docs

/-- Makes the models that are asked for, and those that they ask for in turn. The models of a
template that contains itself with other arguments never end; therefore no more than `limit` steps
are made. -/
def makeAll? (m : Module) : (limit : Nat) → List Instance → Models → Option Models
  | _, [], models => some models
  | 0, _ :: _, _ => none
  | limit + 1, i :: rest, models =>
    let name := i.fullName m.path
    if models.entries.contains name then makeAll? m limit rest models
    else do
      let (model, asked) ← (m.model i).run []
      makeAll? m limit (asked ++ rest) ⟨models.entries.insert name model⟩

/-- Reads a type from its text, together with the models that it is built from. -/
def typeOfText? (m : Module) (limit : Nat) (text : String) : Option (TypeExpr × Models) := do
  let (t, asked) ← (m.readType [] (← TypeSyntax.ofText? text)).run []
  return (t, ← m.makeAll? limit asked .empty)

end Module

end TypeSchema.Model
