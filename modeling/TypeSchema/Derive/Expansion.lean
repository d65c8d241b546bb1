import TypeSchema.Doc
import TypeSchema.Error
import TypeSchema.Source.Meta

/-!
# Deriving descriptors

What a type that derives a schema contributes: its shape, its documentation and the types of its
fields. Unlike the reading of whole sources, deriving refuses a type at the first thing that is
wrong. The shape of the type is looked at first, then `koja` attributes, then the `serde` attributes
of the type, those of its fields or variants, and the doc comments.
-/

namespace TypeSchema

open Source (Attribute AttributeKey DefinitionSyntax FieldSyntax FieldsSyntax Identifier Parser Token
  TypeSyntax VariantSyntax startsOperator startsWord)

/-- Why a type cannot derive a schema. -/
inductive DeriveError where
  /-- It is a union, or its fields have no names. -/
  | shape
  /-- A `koja` attribute is not understood. -/
  | option
  /-- A `serde` attribute cannot be read. -/
  | malformed
  /-- Another name than the declared one would be written. -/
  | renamed
  /-- A field would be inlined. -/
  | flattened
  /-- A doc comment is refused. -/
  | doc (error : DocError)
  deriving Repr, DecidableEq

/-- The wording of an error, if it has one of its own. -/
def DeriveError.message? : DeriveError → Option String
  | shape | option | malformed => none
  | renamed =>
    some "koja: serde renames are not supported; schema names must match the declared names"
  | flattened =>
    some "koja: serde flatten is not supported; the schema would nest what serde inlines"
  | doc e => some e.message

namespace Derive

/-! ## Attributes -/

/-- What `serde` attributes say to a derive. -/
structure SerdeOptions where
  /-- Is there a default? -/
  optional : Bool := false
  /-- Is it left out? -/
  skipped : Bool := false
  deriving Repr, DecidableEq

namespace SerdeOptions

/-- Adds what one key says. Keys that change names or inline are refused. -/
def add (options : SerdeOptions) (key : AttributeKey) : Except DeriveError SerdeOptions :=
  if key.isRename then .error .renamed
  else if key.isFlatten then .error .flattened
  else .ok
    { optional := options.optional || key.isDefault, skipped := options.skipped || key.isSkip }

/-- Adds what the keys of one attribute say, and refuses it if not all of it can be read. -/
def addAttribute (options : SerdeOptions) (a : Attribute) : Except DeriveError SerdeOptions := do
  let options ← a.keys.keys.foldlM add options
  if a.keys.complete then return options else throw .malformed

/-- What the `serde` attributes among attributes say together. -/
def ofAttributes (attributes : List Attribute) : Except DeriveError SerdeOptions :=
  (attributes.filter (·.isNamed "serde")).foldlM addAttribute {}

end SerdeOptions

/-- A truth value, or its name as a text. -/
def truthValue : Parser Bool := do
  if ← Parser.word? "true" then return true
  if ← Parser.word? "false" then return false
  match ← Parser.value with
  | some "true" => return true
  | some "false" => return false
  | _ => failure

open Source.Parser in
/-- The one key that a `koja` attribute of a field may have: is there a default? -/
def defaultKey : Parser Bool := do
  discard (operator? "::")
  word "default"
  let value ← if ← operator? "=" then truthValue else pure true
  ensure (← peek fun ts => ts.isEmpty || startsOperator "," ts)
  return value

/-- The values that a `koja` attribute gives to its keys, if it is understood. -/
def defaultKeys? (a : Attribute) : Option (List Bool) :=
  match a.body with
  | .none => some []
  | .value _ => none
  | .list tokens => Source.Grammar.run? (fun _ => Parser.listToEnd defaultKey) tokens

/-- The values that the `koja` attributes among attributes give to their keys. -/
def kojaValues (attributes : List Attribute) : Except DeriveError (List Bool) := do
  let values ← (attributes.filter (·.isNamed "koja")).mapM fun a =>
    match defaultKeys? a with
    | some values => pure values
    | none => throw .option
  return values.flatten

/-- Does a `koja` attribute of a field say that there is a default? It may be said once only. -/
def fieldDefault (attributes : List Attribute) : Except DeriveError Bool := do
  match ← kojaValues attributes with
  | [] => return false
  | [value] => return value
  | _ => throw .option

/-- Checks the `koja` attributes of a type, which can say nothing. -/
def checkContainer (attributes : List Attribute) : Except DeriveError Unit := do
  match ← kojaValues attributes with
  | [] => return ()
  | _ => throw .option

/-! ## Expansion -/

/-- A field of a type that derives a schema. -/
structure Field where
  /-- Its name. -/
  name : Identifier
  /-- Its type. -/
  type : TypeSyntax
  /-- The tokens of its type. -/
  typeTokens : List Token
  /-- Has it a default? -/
  optional : Bool

/-- How the values of a type that derives a schema are built. -/
inductive Shape where
  /-- Named fields, perhaps none. -/
  | object (fields : List Field)
  /-- One of a list of names. -/
  | enumeration (values : List String)
  /-- One of several shapes. -/
  | polymorphic

end Derive

/-- What a type that derives a schema contributes. -/
structure Expansion where
  /-- How its values are built. -/
  shape : Derive.Shape
  /-- Its documentation. -/
  docs : DocMetadata

namespace Derive

/-- A field with what its `koja` attributes say of a default. -/
abbrev OptionedField := FieldSyntax × Bool

/-- The fields that are written, with what their attributes say. -/
def writtenFields (fields : List OptionedField) :
    Except DeriveError (List (OptionedField × SerdeOptions)) := do
  let options ← fields.mapM fun field => SerdeOptions.ofAttributes field.1.attributes
  return (fields.zip options).filter fun entry => !entry.2.skipped

/-- The expansion of a struct. -/
def expandStruct (attributes : List Attribute) (allOptional : Bool) (fields : List OptionedField) :
    Except DeriveError Expansion := do
  let written ← writtenFields fields
  let comments := written.map fun ((field, _), _) =>
    (field.name.name, Attribute.docText field.attributes)
  match Doc.metadata (Attribute.docText attributes) comments with
  | .error e => throw (.doc e)
  | .ok docs =>
    let shape := .object (written.map fun ((field, isDefault), options) =>
      { name := field.name, type := field.type, typeTokens := field.typeTokens,
        optional := isDefault || options.optional || allOptional })
    return { shape, docs }

/-- The expansion of an enum. Its variants have no documentation of their own. -/
def expandEnum (attributes : List Attribute) (variants : List VariantSyntax) :
    Except DeriveError Expansion := do
  let options ← variants.mapM fun v => SerdeOptions.ofAttributes v.attributes
  let written := ((variants.zip options).filter fun entry => !entry.2.skipped).map Prod.fst
  match Doc.metadata (Attribute.docText attributes) [] with
  | .error e => throw (.doc e)
  | .ok docs =>
    let shape :=
      if written.all VariantSyntax.isUnit then .enumeration (written.map fun v => v.name.name)
      else .polymorphic
    return { shape, docs }

/-- The expansion of a struct with the given fields: the `koja` attributes of all fields come before
anything else. -/
def expandFields (attributes : List Attribute) (fields : List FieldSyntax) :
    Except DeriveError Expansion := do
  checkContainer attributes
  let defaults ← fields.mapM fun field => fieldDefault field.attributes
  let container ← SerdeOptions.ofAttributes attributes
  expandStruct attributes container.optional (fields.zip defaults)

end Derive

/-- What the definition of a type contributes. -/
def Expansion.ofSyntax (d : DefinitionSyntax) : Except DeriveError Expansion :=
  match d.body with
  | .struct (.named fields) => Derive.expandFields d.attributes fields
  | .struct .unit => Derive.expandFields d.attributes []
  | .struct .unnamed => .error .shape
  | .enumeration variants => do
    Derive.checkContainer d.attributes
    discard (Derive.SerdeOptions.ofAttributes d.attributes)
    Derive.expandEnum d.attributes variants
  | .union => .error .shape

end TypeSchema
