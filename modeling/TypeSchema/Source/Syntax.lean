import TypeSchema.Source.Token

/-!
# Syntax trees

What is kept of a source file once it is read: type definitions with their attributes, fields and
variants, and the modules they stand in. Everything else is only checked for its form.
-/

namespace TypeSchema.Source

/-- A name. -/
structure Identifier where
  /-- Its letters. -/
  name : String
  /-- Is it written as a raw word? -/
  raw : Bool := false
  deriving Repr, DecidableEq, Inhabited

namespace Identifier

/-- The token of a name. -/
def token (id : Identifier) : Token := .word id.name id.raw

/-- The text of a name, as it is written. -/
def text (id : Identifier) : String := Token.wordText id.name id.raw

/-- Is it the given plain word? -/
def isWord (id : Identifier) (word : String) : Bool := !id.raw && id.name == word

end Identifier

/-- What follows the path of an attribute. -/
inductive AttributeBody where
  /-- Nothing. -/
  | none
  /-- A value; its text if it is a string literal. -/
  | value (text : Option String)
  /-- Tokens in brackets. -/
  | list (tokens : List Token)
  deriving Repr

/-- An attribute. -/
structure Attribute where
  /-- Its path. -/
  path : List Identifier
  /-- Does the path start with a double colon? -/
  rooted : Bool := false
  /-- What follows the path. -/
  body : AttributeBody
  deriving Repr

/-- Is a path just the given word? -/
def isWordPath (rooted : Bool) (path : List Identifier) (word : String) : Bool :=
  match path with
  | [id] => !rooted && id.isWord word
  | _ => false

namespace Attribute

/-- Is the path of the attribute the given word? -/
def isNamed (a : Attribute) (word : String) : Bool := isWordPath a.rooted a.path word

end Attribute

mutual

/-- A type as it is written. -/
inductive TypeSyntax where
  /-- A path, of which the last segment and its arguments count. A simple path has one segment and
  no arguments in parentheses. -/
  | path (last : Identifier) (arguments : List ArgumentSyntax) (simple : Bool) (tokens : List Token)
  /-- A reference to a type. -/
  | reference (inner : TypeSyntax)
  /-- A type in parentheses. -/
  | parenthesized (inner : TypeSyntax)
  /-- A slice. -/
  | slice (item : TypeSyntax)
  /-- An array. -/
  | array (item : TypeSyntax)
  /-- A single trait bound without a keyword. -/
  | bound (tokens : List Token)
  /-- Any other type. -/
  | other (tokens : List Token)

/-- An argument of a path, in angle brackets. -/
inductive ArgumentSyntax where
  /-- A type. -/
  | type (type : TypeSyntax)
  /-- A constant, as it is written. -/
  | constant (tokens : List Token)
  /-- A lifetime, a name with its value, or a name with bounds. -/
  | other

end

instance : Inhabited TypeSyntax := ⟨.other []⟩

/-- A field with a name. -/
structure FieldSyntax where
  /-- Its attributes. -/
  attributes : List Attribute
  /-- Its name. -/
  name : Identifier
  /-- Its type. -/
  type : TypeSyntax
  /-- The tokens of its type. -/
  typeTokens : List Token

/-- The fields of a struct. -/
inductive FieldsSyntax where
  /-- Named fields. -/
  | named (fields : List FieldSyntax)
  /-- Fields without names. -/
  | unnamed
  /-- None, not even brackets. -/
  | unit

/-- A variant of an enum. -/
structure VariantSyntax where
  /-- Its attributes. -/
  attributes : List Attribute
  /-- Its name. -/
  name : Identifier
  /-- Has it no fields, not even brackets? -/
  isUnit : Bool
  deriving Repr

/-- What a generic parameter stands for. -/
inductive ParameterKind where
  | lifetime
  | type
  | const
  deriving Repr, DecidableEq

/-- A generic parameter. -/
structure ParameterSyntax where
  /-- What it stands for. -/
  kind : ParameterKind
  /-- Its name. -/
  name : Token
  /-- Its declaration, without a default. -/
  declaration : List Token
  /-- Does a comma follow? -/
  comma : Bool
  deriving Repr

/-- The generic parameters of a type and the predicates of its where clause. -/
structure GenericsSyntax where
  /-- The parameters in order. -/
  parameters : List ParameterSyntax := []
  /-- The tokens of the predicates. -/
  predicates : List Token := []
  deriving Repr, Inhabited

/-- What a type definition defines. -/
inductive DefinitionBody where
  /-- A struct. -/
  | struct (fields : FieldsSyntax)
  /-- An enum. -/
  | enumeration (variants : List VariantSyntax)
  /-- A union. -/
  | union

/-- The definition of a type. -/
structure DefinitionSyntax where
  /-- Its attributes. -/
  attributes : List Attribute
  /-- Its name. -/
  name : Identifier
  /-- Its generic parameters. -/
  generics : GenericsSyntax
  /-- What it defines. -/
  body : DefinitionBody

/-- An item of a file or a module. -/
inductive Item where
  /-- The definition of a type. -/
  | definition (d : DefinitionSyntax)
  /-- A module and its items. -/
  | module (items : List Item)
  /-- Any other item. -/
  | other

instance : Inhabited Item := ⟨.other⟩

namespace Item

mutual

/-- The type definitions of an item, in the order in which they are written. -/
def definitions : Item → List DefinitionSyntax
  | .definition d => [d]
  | .module items => definitionsOf items
  | .other => []

/-- The type definitions of several items. -/
def definitionsOf : List Item → List DefinitionSyntax
  | [] => []
  | item :: rest => definitions item ++ definitionsOf rest

end

end Item

end TypeSchema.Source
