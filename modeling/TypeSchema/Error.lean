import TypeSchema.Doc

/-!
# Failures

Why a type has no schema: its descriptor fails validation, its schema cannot be generated, or its
doc comment is refused. Each cause is a constructor; its wording stands in one function beside it.
-/

namespace TypeSchema

/-- What is wrong with a descriptor, seen by itself, or with a type definition. -/
inductive Defect where
  /-- A list does not have exactly one element. -/
  | listArity
  /-- A set does not have exactly one element. -/
  | setArity
  /-- A map does not have exactly two elements. -/
  | mapArity
  /-- The key of a map is no text. -/
  | mapKey (found : String)
  /-- An enumeration has not asked for a schema. -/
  | enumNotEligible (identity : String)
  /-- An object has not asked for a schema. -/
  | objectNotEligible (identity : String)
  /-- Nothing is known of the type. -/
  | unresolved (identity : String)
  /-- A struct has fields without names. -/
  | tupleStruct
  /-- Another name than the declared one would be written. -/
  | renamed
  /-- A field would be inlined. -/
  | flattened
  /-- A cause in the words of a caller. -/
  | other (text : String)
  deriving Repr, DecidableEq

/-- The wording of a defect. -/
def Defect.message : Defect → String
  | listArity => "List must have exactly one type parameter."
  | setArity => "Set must have exactly one type parameter."
  | mapArity => "Map must have exactly two type parameters (key and value)."
  | mapKey found => s!"Map key must be String, found: {found}."
  | enumNotEligible identity => s!"Enum '{identity}' must derive JsonSchema."
  | objectNotEligible identity => s!"'{identity}' must derive JsonSchema."
  | unresolved identity =>
    s!"Type '{identity}' is not a supported primitive, collection, enum, or JsonSchema type."
  | tupleStruct => "Tuple structs are not supported; use named fields."
  | renamed =>
    "serde renames are not supported; schema names must match the declared names."
  | flattened =>
    "serde flatten is not supported; the schema would nest what serde inlines."
  | other text => text

/-- A defect and the way to it, outermost step first. -/
structure ValidationError where
  /-- What is wrong at the end of the way. -/
  defect : Defect
  /-- The steps of the way. -/
  path : List String := []
  deriving Repr, DecidableEq

namespace ValidationError

/-- The same defect, seen from one step further out. -/
def within (e : ValidationError) (segment : String) : ValidationError :=
  { e with path := segment :: e.path }

/-- The wording of the defect, followed by the way unless that is empty. -/
def message (e : ValidationError) : String :=
  if e.path.isEmpty then e.defect.message
  else e.defect.message ++ " (at " ++ String.intercalate " -> " e.path ++ ")"

end ValidationError

/-- Why the schema of a descriptor cannot be generated. -/
inductive SchemaError where
  /-- The kind of the descriptor has no schema. -/
  | unsupportedKind (identity : String)
  /-- An object has not asked for a schema. -/
  | notEligible (identity : String)
  /-- An object is met inside itself. -/
  | recursiveType (identity : String)
  /-- The descriptor lies deeper than allowed. -/
  | depthExceeded (identity : String) (maxDepth : Nat)
  /-- A container has a wrong number of elements. -/
  | malformed (identity : String) (expected actual : Nat)
  deriving Repr, DecidableEq

/-- The wording of an error. -/
def SchemaError.message : SchemaError → String
  | unsupportedKind identity =>
    s!"internal error: descriptor '{identity}' has a kind that cannot be represented"
  | notEligible identity => s!"'{identity}' is not marked for schema generation"
  | recursiveType identity =>
    s!"'{identity}' refers to itself; recursive types cannot be inlined"
  | depthExceeded identity maxDepth =>
    s!"type graph exceeds the maximum depth of {maxDepth} at '{identity}'"
  | malformed identity expected actual =>
    s!"'{identity}' has {actual} element descriptors, expected {expected}"

/-- Why one type has no schema. -/
inductive Failure where
  /-- The type fails validation. -/
  | validation (error : ValidationError)
  /-- A doc comment is refused. -/
  | doc (error : DocError)
  /-- The schema cannot be generated. -/
  | schema (error : SchemaError)
  deriving Repr, DecidableEq

/-- The wording of a failure. -/
def Failure.message : Failure → String
  | validation e => e.message
  | doc e => e.message
  | schema e => e.message

/-- The failures of a batch, each with the identity of its type. -/
structure BatchError where
  /-- The failures in order. -/
  failures : List (String × Failure)
  deriving Repr, DecidableEq

/-- The number of failures, and a line for each. -/
def BatchError.message (e : BatchError) : String :=
  s!"{e.failures.length} type(s) failed schema generation:" ++
    String.join (e.failures.map fun (identity, failure) => s!"\n  {identity}: " ++ failure.message)

end TypeSchema
