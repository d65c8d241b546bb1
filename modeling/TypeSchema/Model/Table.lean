import TypeSchema.Doc
import TypeSchema.Model.TypeExpr

/-!
# Tables of models

The models that a program has, by their full names. A model is derived or written by hand: a derived
one has its full name as identity, has asked for a schema, and registers its documentation; one
written by hand does only what it says.
-/

namespace TypeSchema

/-- A field of a model. -/
structure ModelField where
  /-- Its name. -/
  name : String
  /-- Its type. -/
  type : TypeExpr
  /-- Has it a default? -/
  optional : Bool := false
  deriving Repr, DecidableEq

/-- How the values of a model are built. -/
inductive ModelShape where
  /-- Named fields, perhaps none. -/
  | object (fields : List ModelField)
  /-- One of a list of names. -/
  | enumeration (values : List String)
  /-- One of several shapes. -/
  | polymorphic
  /-- In a way that has no description. -/
  | undescribed
  deriving Repr, DecidableEq

/-- A type that describes itself. -/
inductive Model where
  /-- A type that derives its description. -/
  | derived (shape : ModelShape) (docs : DocMetadata)
  /-- A type whose description is written by hand, under an identity of its own. -/
  | handwritten (identity : String) (shape : ModelShape)

namespace Model

/-- How the values are built. -/
def shape : Model → ModelShape
  | derived shape _ => shape
  | handwritten _ shape => shape

/-- The fields; only an object has any. -/
def fields (m : Model) : List ModelField :=
  match m.shape with
  | .object fields => fields
  | _ => []

/-- The documentation that a model has of its own. -/
def ownDocs : Model → Option DocMetadata
  | derived _ docs => if docs.isEmpty then none else some docs
  | handwritten _ _ => none

/-- The definition that a model stands for, given its full name. -/
def definition (name : String) (m : Model) : Definition where
  identity := match m with
    | derived _ _ => name
    | handwritten identity _ => identity
  eligible := match m with
    | derived _ _ => true
    | handwritten _ _ => false
  shape := match m.shape with
    | .object fields => .object (fields.map fun field =>
        { name := field.name, type := field.type.typeRef, optional := field.optional })
    | .enumeration values => .enumeration values
    | .polymorphic => .polymorphic
    | .undescribed => .undescribed

end Model

/-- Models by full name. -/
structure Models where
  /-- The models. -/
  entries : OrderedMap Model

namespace Models

/-- The table without models. -/
def empty : Models := ⟨.empty⟩

instance : Inhabited Models := ⟨empty⟩

/-- The model of a full name. -/
def get? (models : Models) (name : String) : Option Model := models.entries.get? name

/-- The definitions that the models stand for. -/
def definitions (models : Models) : Definitions :=
  ⟨models.entries.entries.map fun entry => (entry.1, entry.2.definition entry.1),
    by simpa [Function.comp_def] using models.entries.nodup⟩

/-- The documentation that a type has of its own: that of a model. -/
def ownDocs (models : Models) : TypeExpr → Option DocMetadata
  | .model name => (models.get? name).bind Model.ownDocs
  | _ => none

end Models

end TypeSchema
