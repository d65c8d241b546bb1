import TypeSchema.Log

/-!
# The registry of documentation

A registry holds the documentation of types by identity. It is filled by a builder, which also
remembers the types that were visited, so that each type adds its documentation once. Types without
documentation have no entry.
-/

namespace TypeSchema

/-- Documentation by identity. -/
structure DocRegistry where
  /-- The documented types. -/
  entries : OrderedMap DocMetadata

namespace DocRegistry

/-- The registry without entries. -/
def empty : DocRegistry := ⟨.empty⟩

instance : Inhabited DocRegistry := ⟨empty⟩

/-- The documentation of a type. -/
def get? (registry : DocRegistry) (identity : String) : Option DocMetadata :=
  registry.entries.get? identity

/-- Is the type documented? -/
def contains (registry : DocRegistry) (identity : String) : Bool :=
  registry.entries.contains identity

/-- The number of documented types. -/
def size (registry : DocRegistry) : Nat := registry.entries.size

/-- The text of a field of a type. -/
def field? (registry : DocRegistry) (identity name : String) : Option String :=
  (registry.get? identity).bind fun doc => doc.field? name

/-- The description of a type. -/
def description? (registry : DocRegistry) (identity : String) : Option String :=
  (registry.get? identity).bind DocMetadata.description

/-- A registry in the making. -/
structure Builder where
  /-- The documentation so far. -/
  entries : OrderedMap DocMetadata := .empty
  /-- The types that were visited. -/
  visited : List String := []

instance : Inhabited Builder := ⟨{}⟩

namespace Builder

/-- Adds the documentation of a type and gives back what it had before. Empty documentation is not
kept, and replacing documentation is of note. -/
def insert (b : Builder) (identity : String) (doc : DocMetadata) :
    Logged (Option DocMetadata × Builder) :=
  if doc.isEmpty then pure (none, b)
  else
    let previous := b.entries.get? identity
    ⟨(previous, { b with entries := b.entries.insert identity doc }),
      if previous.isSome then [.docReplaced identity] else []⟩

/-- Marks a type as visited, and says whether this is the first visit. -/
def visit (b : Builder) (identity : String) : Bool × Builder :=
  if identity ∈ b.visited then (false, b)
  else (true, { b with visited := identity :: b.visited })

/-- The completed registry. -/
def build (b : Builder) : Logged DocRegistry :=
  ⟨⟨b.entries⟩, [.registryBuilt b.entries.size]⟩

/-- Adds the documentation of several types, one after the other. -/
def insertAll (b : Builder) : List (String × DocMetadata) → Logged Builder
  | [] => pure b
  | (identity, doc) :: rest => do
    let (_, b) ← b.insert identity doc
    b.insertAll rest

end Builder

/-- The registry of a list of documented types. -/
def ofList (docs : List (String × DocMetadata)) : Logged DocRegistry := do
  let b ← Builder.insertAll {} docs
  b.build

end DocRegistry

end TypeSchema
