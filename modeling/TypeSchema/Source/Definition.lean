import TypeSchema.Doc
import TypeSchema.Error
import TypeSchema.Source.Meta
import TypeSchema.Source.TypeReading

/-!
# Types defined in sources

What a source says of one struct or enum: its shape, its doc comments, and what keeps it from having
a schema.
-/

namespace TypeSchema

open Source (Attribute DefinitionSyntax FieldSyntax SerdeFlags VariantSyntax)

/-- A field of a struct that is written out. -/
structure SourceField where
  /-- Its name. -/
  name : String
  /-- Its type. -/
  type : TypeRef
  /-- Has it a default? -/
  optional : Bool
  /-- Its own doc comment. -/
  comment : Option String
  /-- Is it written under another name? -/
  renamed : Bool
  /-- Is it inlined? -/
  flattened : Bool
  deriving Repr, DecidableEq

/-- How the values of a type in a source are built. -/
inductive SourceShape where
  /-- Named fields, perhaps none. -/
  | object (fields : List SourceField)
  /-- One of a list of names. -/
  | enumeration (values : List String)
  /-- One of several shapes. -/
  | polymorphic
  /-- Fields without names. -/
  | tuple
  deriving Repr, DecidableEq

/-- A struct or enum in a source. -/
structure SourceType where
  /-- Its name. -/
  name : String
  /-- Does it derive a schema? -/
  eligible : Bool
  /-- Its doc comment. -/
  comment : Option String
  /-- How its values are built. -/
  shape : SourceShape
  /-- Is it, are its variants or are all of its fields written under other names? -/
  renamed : Bool
  deriving Repr, DecidableEq

/-- The name under which a type derives a schema. -/
def schemaTrait : String := "JsonSchema"

namespace SourceField

/-- A field, unless it is left out. In a type with a default, every field has one. -/
def ofSyntax? (allOptional : Bool) (field : FieldSyntax) : Option SourceField :=
  let flags := SerdeFlags.ofAttributes field.attributes
  if flags.skipped then none
  else some
    { name := field.name.name, type := .ofSyntax field.type,
      optional := allOptional || flags.optional, comment := Attribute.docText field.attributes,
      renamed := flags.renamed, flattened := flags.flattened }

/-- The field as part of a definition. -/
def fieldDef (field : SourceField) : FieldDef :=
  { name := field.name, type := field.type, optional := field.optional }

end SourceField

namespace SourceType

/-- The shape of an enum: names if no variant that is written has fields. -/
def shapeOfVariants (variants : List VariantSyntax) : SourceShape :=
  let written := variants.filter fun v => !(SerdeFlags.ofAttributes v.attributes).skipped
  if written.all VariantSyntax.isUnit then .enumeration (written.map fun v => v.name.name)
  else .polymorphic

/-- The struct or enum of a definition; a union is neither. -/
def ofSyntax? (d : DefinitionSyntax) : Option SourceType :=
  let container := SerdeFlags.ofAttributes d.attributes
  let type (shape : SourceShape) (renamed : Bool) : SourceType :=
    { name := d.name.name, eligible := d.attributes.any (·.derives schemaTrait),
      comment := Attribute.docText d.attributes, shape, renamed }
  match d.body with
  | .struct (.named fields) =>
    some (type (.object (fields.filterMap (SourceField.ofSyntax? container.optional)))
      container.renamed)
  | .struct .unit => some (type (.object []) container.renamed)
  | .struct .unnamed => some (type .tuple container.renamed)
  | .enumeration variants =>
    some (type (shapeOfVariants variants) (container.renamed ||
      variants.any fun v => (SerdeFlags.ofAttributes v.attributes).renamed))
  | .union => none

/-- The fields; only an object has any. -/
def fields (t : SourceType) : List SourceField :=
  match t.shape with
  | .object fields => fields
  | _ => []

/-- The documentation of a type, from its own comment and those of its fields. -/
def doc (t : SourceType) : Except DocError DocMetadata :=
  Doc.metadata t.comment (t.fields.map fun field => (field.name, field.comment))

/-- The definition that the type stands for. -/
def definition (t : SourceType) : Definition where
  identity := t.name
  eligible := t.eligible
  shape :=
    match t.shape with
    | .object fields => .object (fields.map SourceField.fieldDef)
    | .enumeration values => .enumeration values
    | .polymorphic => .polymorphic
    | .tuple => .undescribed

/-- The way to a field. -/
def fieldSegment (t : SourceType) (field : SourceField) : String := t.name ++ "." ++ field.name

/-- What keeps the type from having a schema, whatever else is known: fields without names, other
names than the declared ones, or inlined fields. -/
def rejection? (t : SourceType) : Option ValidationError :=
  if t.shape = .tuple then some ⟨.tupleStruct, [t.name]⟩
  else if t.renamed then some ⟨.renamed, [t.name]⟩
  else match t.fields.find? SourceField.renamed with
    | some field => some ⟨.renamed, [t.fieldSegment field]⟩
    | none =>
      match t.fields.find? SourceField.flattened with
      | some field => some ⟨.flattened, [t.fieldSegment field]⟩
      | none => none

end SourceType

end TypeSchema
