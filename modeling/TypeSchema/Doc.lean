import TypeSchema.OrderedMap
import TypeSchema.Text.Blank

/-!
# Documentation of types

The documentation of a type is a description and a text for some of its fields. It is read from doc
comments by a small grammar over words:

* the words before the first tag are the description of the type;
* `@param` and `@property`, which mean the same, are followed by the name of a known field and at
  least one word of text;
* `@return` and the words after it say nothing;
* any other word that starts with `@` is an error.

A field may also have a doc comment of its own, which has no tags.
-/

namespace TypeSchema

/-- Why a doc comment is refused. -/
inductive DocError where
  /-- A word starts with `@` and is none of the tags. -/
  | unsupportedTag (tag : String)
  /-- No word follows a field tag. -/
  | missingFieldName (tag : String)
  /-- The word after a field tag is not the name of a field. -/
  | unknownField (tag field : String)
  /-- No text follows the name of the field. -/
  | emptyDescription (tag field : String)
  /-- An earlier tag has described the field. -/
  | duplicateField (tag field : String)
  /-- The field has a text already when that of its own comment is added. -/
  | conflictingFieldDoc (field : String)
  deriving Repr, DecidableEq

/-- The wording of an error. -/
def DocError.message : DocError → String
  | unsupportedTag tag =>
    s!"Unsupported tag '{tag}' found in doc comment. " ++
      "Only the following tags are allowed: '@param, @property, @return'"
  | missingFieldName tag => s!"'{tag}' is not followed by a field name."
  | unknownField tag field => s!"'{tag} {field}' references unknown parameter or field."
  | emptyDescription tag field => s!"'{tag} {field}' has no description."
  | duplicateField tag field => s!"Duplicate '{tag} {field}' found in doc comment."
  | conflictingFieldDoc field =>
    s!"Field '{field}' is documented both by its own doc comment and by a @param/@property tag."

/-- What doc comments say about one type. -/
structure DocMetadata where
  /-- The description of the type. -/
  description : Option String
  /-- The texts of its fields, by name. -/
  fields : OrderedMap String

namespace DocMetadata

/-- No documentation. -/
def empty : DocMetadata := ⟨none, .empty⟩

instance : Inhabited DocMetadata := ⟨empty⟩

/-- The documentation with the given texts; of two texts for a field the later one stands. -/
def ofList (description : Option String) (fields : List (String × String)) : DocMetadata :=
  ⟨description, .ofList fields⟩

/-- Is neither the type nor a field described? -/
def isEmpty (doc : DocMetadata) : Bool :=
  doc.description.isNone && doc.fields.isEmpty

/-- The text of a field. -/
def field? (doc : DocMetadata) (name : String) : Option String := doc.fields.get? name

/-- Adds the text of a field's own comment. A field has one text only. -/
def insertField (doc : DocMetadata) (name text : String) : Except DocError DocMetadata :=
  if doc.fields.contains name then .error (.conflictingFieldDoc name)
  else .ok { doc with fields := doc.fields.insert name text }

end DocMetadata

/-! ## The grammar -/

namespace Doc

/-- Is the word written like a tag? -/
def isTag (word : String) : Bool := word.toList.head? == some '@'

/-- The tag whose segment says nothing. -/
def returnTag : String := "@return"

/-- The tags that may occur. -/
def tags : List String := ["@param", "@property", returnTag]

/-- A tag with the words up to the next tag. -/
structure Segment where
  /-- The tag. -/
  tag : String
  /-- The words after it. -/
  body : List String
  deriving Repr, DecidableEq

/-- Splits words into the words before the first tag and one segment for each tag. -/
def segments : List String → List String × List Segment
  | [] => ([], [])
  | word :: rest =>
    let (before, later) := segments rest
    if isTag word then ([], ⟨word, before⟩ :: later) else (word :: before, later)

/-- Words as one text; no words are no text. -/
def textOf? (ws : List String) : Option String :=
  if ws.isEmpty then none else some (Text.unwords ws)

/-- Adds what a segment says to the texts of the fields. -/
def readSegment (known : List String) (fields : OrderedMap String) (segment : Segment) :
    Except DocError (OrderedMap String) :=
  if segment.tag = returnTag then .ok fields
  else match segment.body with
    | [] => .error (.missingFieldName segment.tag)
    | field :: text =>
      if field ∉ known then .error (.unknownField segment.tag field)
      else if text.isEmpty then .error (.emptyDescription segment.tag field)
      else if fields.contains field then .error (.duplicateField segment.tag field)
      else .ok (fields.insert field (Text.unwords text))

/-- Reads segments one after the other, up to the first that is refused. -/
def readSegments (known : List String) (fields : OrderedMap String) :
    List Segment → Except DocError (OrderedMap String)
  | [] => .ok fields
  | segment :: rest =>
    match readSegment known fields segment with
    | .error e => .error e
    | .ok fields => readSegments known fields rest

/-- Reads the doc comment of a type with the given field names. A tag that is not allowed is
reported before anything else. -/
def parse (text : String) (known : List String) : Except DocError DocMetadata :=
  let ws := Text.words text
  match ws.find? (fun word => isTag word && word ∉ tags) with
  | some tag => .error (.unsupportedTag tag)
  | none =>
    let (main, later) := segments ws
    match readSegments known .empty later with
    | .error e => .error e
    | .ok fields => .ok ⟨textOf? main, fields⟩

/-- Reads the doc comment of a field: its words as one text. No tag is allowed. -/
def parseField (text : String) : Except DocError (Option String) :=
  let ws := Text.words text
  match ws.find? isTag with
  | some tag => .error (.unsupportedTag tag)
  | none => .ok (textOf? ws)

/-- Adds the text of a field's own comment to documentation that is kept and changed. -/
def keepField (name text : String) : ExceptT DocError (StateM DocMetadata) Unit := do
  if (← get).fields.contains name then throw (.conflictingFieldDoc name)
  modify fun doc => { doc with fields := doc.fields.insert name text }

/-- Adds the own comments of fields, given with the fields' names, one after the other. -/
def addFieldDocs (doc : DocMetadata) :
    List (String × Option String) → Except DocError DocMetadata
  | [] => .ok doc
  | (_, none) :: rest => addFieldDocs doc rest
  | (name, some comment) :: rest =>
    match parseField comment with
    | .error e => .error e
    | .ok none => addFieldDocs doc rest
    | .ok (some text) =>
      match doc.insertField name text with
      | .error e => .error e
      | .ok doc => addFieldDocs doc rest

/-- The documentation of a type from its own comment and those of its fields. -/
def metadata (comment : Option String) (fields : List (String × Option String)) :
    Except DocError DocMetadata :=
  match comment with
  | none => addFieldDocs .empty fields
  | some text =>
    match parse text (fields.map Prod.fst) with
    | .error e => .error e
    | .ok doc => addFieldDocs doc fields

end Doc

end TypeSchema
