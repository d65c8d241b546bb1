import TypeSchema.Batch
import TypeSchema.Json.Printer
import TypeSchema.Source.Definition

/-!
# Tables of sources

The types defined in a list of source texts, by name. Modules do not matter, and of several
definitions of a name the last one counts, in the place of the first. The schemas of some of the
types are generated as a batch; what is wrong with any type that derives a schema is reported beside
it.
-/

namespace TypeSchema

open Source (Item)

/-- The types in sources, by name. -/
structure SourceTable where
  /-- The types in the order in which their names first came. -/
  types : OrderedMap SourceType

namespace SourceTable

/-- The table of no sources. -/
def empty : SourceTable := ⟨.empty⟩

instance : Inhabited SourceTable := ⟨empty⟩

/-- Adds a type. Its name keeps its place. -/
def insert (table : SourceTable) (t : SourceType) : Logged SourceTable :=
  ⟨⟨table.types.insert t.name t⟩,
    .typeParsed t.name t.eligible ::
      if table.types.contains t.name then [.typeRedefined t.name] else []⟩

/-- Adds several types, one after the other. -/
def insertAll (table : SourceTable) : List SourceType → Logged SourceTable
  | [] => pure table
  | t :: rest => do
    let table ← table.insert t
    table.insertAll rest

mutual

/-- Adds the type of an item, or those of the items of a module. -/
def addItem (table : SourceTable) : Item → Logged SourceTable
  | .definition d =>
    match SourceType.ofSyntax? d with
    | some t => table.insert t
    | none => pure table
  | .module items => addItems table items
  | .other => pure table

/-- Adds the types of items. -/
def addItems (table : SourceTable) : List Item → Logged SourceTable
  | [] => pure table
  | item :: rest => do
    let table ← addItem table item
    addItems table rest

end

/-- Adds the types of files. -/
def addFiles (table : SourceTable) : List (List Item) → Logged SourceTable
  | [] => pure table
  | items :: rest => do
    let table ← table.addItems items
    table.addFiles rest

/-- Adds the types of a source text, if it can be read. -/
def addText? (table : SourceTable) (text : String) : Option (Logged SourceTable) :=
  (Source.items? text).map table.addItems

/-- The table after a text is read; a text that cannot be read is left out. -/
def read (table : SourceTable) (text : String) : SourceTable :=
  ((table.addText? text).map Logged.value).getD table

/-- The table after texts are read. -/
def readAll (table : SourceTable) (texts : List String) : SourceTable := texts.foldl read table

/-- Is there a type of the name? -/
def contains (table : SourceTable) (name : String) : Bool := table.types.contains name

/-- The types that derive a schema. -/
def eligibleTypes (table : SourceTable) : List SourceType :=
  table.types.values.filter SourceType.eligible

/-- The names of the types that derive a schema. -/
def eligibleNames (table : SourceTable) : List String := table.eligibleTypes.map SourceType.name

/-- The definitions of the types. -/
def definitions (table : SourceTable) : Definitions := table.types.map SourceType.definition

/-- Adds the documentation of types, and collects the doc comments that are refused. -/
def registerAll (b : DocRegistry.Builder) (failures : List (String × DocError)) :
    List SourceType → Logged (DocRegistry.Builder × List (String × DocError))
  | [] => pure (b, failures.reverse)
  | t :: rest =>
    match t.doc with
    | .ok doc => do
      let (_, b) ← b.insert t.name doc
      registerAll b failures rest
    | .error e => registerAll b ((t.name, e) :: failures) rest

/-- The documentation of the types that derive a schema, and those whose doc comments are
refused. -/
def docRegistry (table : SourceTable) : Logged (DocRegistry × List (String × DocError)) := do
  let (b, failures) ← registerAll {} [] table.eligibleTypes
  return (← b.build, failures)

/-- The types that derive a schema and can have none. -/
def rejections (table : SourceTable) : List (String × ValidationError) :=
  table.eligibleTypes.filterMap fun t => t.rejection?.map fun e => (t.name, e)

/-! ## Schemas of a table -/

/-- Why no types can be selected. -/
inductive SelectionError where
  /-- No type derives a schema. -/
  | noTypes
  /-- There is no type of the name. -/
  | unknown (name : String)
  deriving Repr, DecidableEq

/-- The wording of an error. -/
def SelectionError.message : SelectionError → String
  | noTypes => s!"No types deriving {schemaTrait} found in the input files"
  | unknown name => s!"Type '{name}' was not found in the input files"

/-- The types that were asked for, or all that derive a schema if none were. -/
def select (table : SourceTable) (requested : List String) :
    Except SelectionError (List String) :=
  if requested.isEmpty then
    if table.eligibleNames.isEmpty then .error .noTypes else .ok table.eligibleNames
  else match requested.find? fun name => !table.contains name with
    | some name => .error (.unknown name)
    | none => .ok requested

/-- Generates the schemas of the named types, apart from those that can have none. The doc comments
that are refused and the types that can have no schema are reported, whether they are named or
not. -/
def collect (table : SourceTable) (names : List String) (config : GeneratorConfig) :
    Logged BatchOutcome := do
  let (docs, docFailures) ← table.docRegistry
  let rejections := table.rejections
  let roots := (names.filter fun name =>
    !rejections.any (·.1 == name) && table.contains name).map TypeRef.named
  let defs := table.definitions
  let outcome ← Batch.run (defs.graph roots) docs config (defs.rootRefs roots)
  return (outcome.addFailures (docFailures.map fun (name, e) => (name, .doc e))).addFailures
    (rejections.map fun (name, e) => (name, .validation e))

/-- Schemas as one document, over several lines or on one. -/
def render (schemas : OrderedMap Schema) (pretty : Bool) : String :=
  let document := Json.object (schemas.entries.map fun (name, schema) => (name, schema.toJson))
  if pretty then document.pretty else document.compact

end SourceTable

end TypeSchema
