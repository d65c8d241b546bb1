import TypeSchema.Json.Value
import TypeSchema.OrderedMap

/-!
# Schemas

A schema says which JSON values belong to a type. Structs, maps with text keys and values of open
shape are all objects; they differ in which parts of the object are described.
-/

namespace TypeSchema

/-- A JSON schema. -/
inductive Schema where
  /-- An object: its named properties, those of them that must be there, and what any other property
  must be. Properties and required names are in order and without repetition. -/
  | object (description : Option String) (properties : Option (List (String × Schema)))
      (required : List String) (additional : Option Schema)
  /-- A text, perhaps one of a list. -/
  | string (description : Option String) (values : Option (List String))
  /-- A number. -/
  | number (description : Option String)
  /-- A truth value. -/
  | boolean (description : Option String)
  /-- A list of items. -/
  | array (description : Option String) (items : Schema)
  deriving Repr, Inhabited

namespace Schema

/-! ## The plain forms -/

/-- Any text. -/
def anyString : Schema := .string none none

/-- One of the given texts. -/
def stringEnum (values : List String) : Schema := .string none (some values)

/-- Any number. -/
def anyNumber : Schema := .number none

/-- Either truth value. -/
def anyBoolean : Schema := .boolean none

/-- A list of items. -/
def arrayOf (items : Schema) : Schema := .array none items

/-- An object with any keys, whose values are described. -/
def mapOf (value : Schema) : Schema := .object none none [] (some value)

/-- An object of which nothing else is said. -/
def anyObject : Schema := .object none none [] none

/-- The properties of an object from a list of named schemas: a repeated name keeps its first place
and takes its last schema. -/
def propertiesOf (entries : List (String × Schema)) : List (String × Schema) :=
  entries.foldl (fun properties entry => putEntry entry.1 entry.2 properties) []

/-- The names of a list, each once, where it first stands. -/
def namesOf (names : List String) : List String :=
  names.foldl (fun seen name => addName name seen) []

/-! ## Parts -/

/-- The name of the schema's type. -/
def typeName : Schema → String
  | .object .. => "object"
  | .string .. => "string"
  | .number .. => "number"
  | .boolean .. => "boolean"
  | .array .. => "array"

/-- The description of the schema. -/
def description : Schema → Option String
  | .object d _ _ _ => d
  | .string d _ => d
  | .number d => d
  | .boolean d => d
  | .array d _ => d

/-- The same schema with a description, in place of the one it may have. -/
def withDescription (text : String) : Schema → Schema
  | .object _ properties required additional => .object (some text) properties required additional
  | .string _ values => .string (some text) values
  | .number _ => .number (some text)
  | .boolean _ => .boolean (some text)
  | .array _ items => .array (some text) items

/-! ## The JSON form -/

/-- The first members: the type and, if there is one, the description. -/
def headMembers (typeName : String) (description : Option String) : List (String × Json) :=
  ("type", .string typeName) ::
    match description with
    | none => []
    | some text => [("description", .string text)]

/-- The member that lists the required names, unless there are none. -/
def requiredMember (names : List String) : List (String × Json) :=
  if names.isEmpty then [] else [("required", .strings names)]

/-- The member that lists the texts of an enumeration. -/
def enumMember : Option (List String) → List (String × Json)
  | none => []
  | some values => [("enum", .strings values)]

mutual

/-- The schema as a JSON value: the type, the description, then the parts the type has. -/
def toJson : Schema → Json
  | .object d properties required additional =>
    .object (headMembers "object" d ++ propertiesMember properties ++ requiredMember required ++
      additionalMember additional)
  | .string d values => .object (headMembers "string" d ++ enumMember values)
  | .number d => .object (headMembers "number" d)
  | .boolean d => .object (headMembers "boolean" d)
  | .array d items => .object (headMembers "array" d ++ [("items", toJson items)])

/-- The member that holds the properties, if they are described at all. -/
def propertiesMember : Option (List (String × Schema)) → List (String × Json)
  | none => []
  | some properties => [("properties", .object (namedJson properties))]

/-- The member that says what other properties must be. -/
def additionalMember : Option Schema → List (String × Json)
  | none => []
  | some value => [("additionalProperties", toJson value)]

/-- Named schemas as members. -/
def namedJson : List (String × Schema) → List (String × Json)
  | [] => []
  | (name, schema) :: rest => (name, toJson schema) :: namedJson rest

end

end Schema

end TypeSchema
