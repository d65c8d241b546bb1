import TypeSchema.Proofs.Model.Standard
import TypeSchema.Proofs.Source.Types
import TypeSchema.Source.TypeReading

/-!
# Standard types as they are written

In a source a type is a path, of which only the last name and the arguments after it are looked at,
or a pair of brackets. The same type may be written in many ways: its name bare or behind the modules
that it stands in, and with a further argument where it may be told how to hash.

* `TypeExpr.Written` relates a standard type to all of these.
* `ofSyntax_of_written`: each **means the type**, name by name and argument by argument.
* `described_of_written`: so a source describes it as it describes itself, and as a program of models
  does.
-/

namespace TypeSchema

open Model Source

namespace Model

/-- May the container be told how to hash? -/
def Container.takesHasher : Container → Bool
  | hashSet | indexSet => true
  | _ => false

/-- May the map be told how to hash? -/
def MapContainer.takesHasher : MapContainer → Bool
  | hashMap | indexMap => true
  | treeMap => false

end Model

namespace TypeExpr

/-- The written types that stand for a standard type. Whether a path is simple and what its tokens
are is left open: a name may be bare or follow any modules. -/
inductive Written : TypeExpr → TypeSyntax → Prop where
  /-- The name of a plain value. -/
  | scalar (s : Scalar) (simple : Bool) (tokens : List Token) :
      Written (.scalar s) (.path { name := s.name } [] simple tokens)
  /-- The name of a container with a type. -/
  | container (c : Container) {inner : TypeExpr} {item : TypeSyntax} (hasher : Option TypeSyntax)
      (simple : Bool) (tokens : List Token) (hnamed : c ≠ .slice)
      (hhasher : hasher.isSome → c.takesHasher = true) (hinner : Written inner item) :
      Written (.container c inner)
        (.path { name := c.name } (.type item :: hasher.toList.map .type) simple tokens)
  /-- A type in brackets. -/
  | slice {inner : TypeExpr} {item : TypeSyntax} (hinner : Written inner item) :
      Written (.container .slice inner) (.slice item)
  /-- The name of a map with a type for keys and one for values. -/
  | map (c : MapContainer) {key value : TypeExpr} {first second : TypeSyntax}
      (hasher : Option TypeSyntax) (simple : Bool) (tokens : List Token)
      (hhasher : hasher.isSome → c.takesHasher = true) (hkey : Written key first)
      (hvalue : Written value second) :
      Written (.map c key value)
        (.path { name := c.name } (.type first :: .type second :: hasher.toList.map .type) simple
          tokens)

/-- What is written is a standard type. -/
theorem Written.isStandard {u : TypeExpr} {t : TypeSyntax} (h : u.Written t) : u.IsStandard := by
  induction h with
  | scalar => trivial
  | container _ _ _ _ _ _ _ ih => exact ih
  | slice _ ih => exact ih
  | map _ _ _ _ _ _ _ ihk ihv => exact ⟨ihk, ihv⟩

/-! ### Reading names -/

/-- The name of a plain value is read as that value. -/
@[simp] theorem ofPath_scalar (s : Scalar) (tokens : List Token) :
    TypeRef.ofPath { name := s.name } [] tokens = .primitive s.primitive := by
  cases s <;> rfl

/-- A name with arguments is that of a container or of none. -/
theorem ofPath_arguments (name : String) (first : TypeRef) (rest : List TypeRef)
    (tokens : List Token) :
    TypeRef.ofPath { name } (first :: rest) tokens =
      (TypeRef.container? name (first :: rest)).getD (.unsupported (Token.textOf tokens)) := rfl

/-- A container is known by its name and one argument, and a set by further ones as well. -/
theorem container?_name {c : Container} (hnamed : c ≠ .slice) (inner : TypeRef)
    {hashers : List TypeRef} (hhashers : hashers ≠ [] → c.takesHasher = true) :
    TypeRef.container? c.name (inner :: hashers) = some (c.typeRef inner) := by
  cases hashers with
  | nil => cases c <;> first | rfl | exact absurd rfl hnamed
  | cons hasher rest =>
    have htakes := hhashers (List.cons_ne_nil hasher rest)
    cases c with
    | hashSet | indexSet => rfl
    | option | box | arc | rc | vec | vecDeque | slice | treeSet =>
      exact absurd htakes Bool.false_ne_true

/-- The name of a map, with its keys, values and hashers, is read as a map. -/
@[simp]
theorem container?_mapName (c : MapContainer) (key value : TypeRef) (hashers : List TypeRef) :
    TypeRef.container? c.name (key :: value :: hashers) = some (.map key value) := by
  cases c <;> rfl

/-- Arguments that are types are read one by one. -/
@[simp] theorem ofArguments_types (types : List TypeSyntax) :
    TypeRef.ofArguments (types.map .type) = types.map TypeRef.ofSyntax := by
  induction types with
  | nil => rfl
  | cons type rest ih => rw [List.map_cons, List.map_cons, TypeRef.ofArguments, ih]

/-- **A written type means the type that it stands for.** -/
theorem ofSyntax_of_written {u : TypeExpr} {t : TypeSyntax} (h : u.Written t) :
    TypeRef.ofSyntax t = u.typeRef := by
  induction h with
  | scalar s simple tokens => exact ofPath_scalar s tokens
  | container c hasher simple tokens hnamed hhasher _ ih =>
    have hhashers : hasher.toList.map TypeRef.ofSyntax ≠ [] → c.takesHasher = true := by
      intro hne
      cases hasher with
      | none => exact absurd rfl hne
      | some hasher => exact hhasher rfl
    rw [TypeRef.ofSyntax, TypeRef.ofArguments, ofArguments_types, ih, ofPath_arguments,
      container?_name hnamed _ hhashers]
    rfl
  | slice _ ih =>
    rw [TypeRef.ofSyntax, ih]
    rfl
  | map c hasher simple tokens _ _ _ ihk ihv =>
    rw [TypeRef.ofSyntax, TypeRef.ofArguments, TypeRef.ofArguments, ofArguments_types, ihk, ihv,
      ofPath_arguments, container?_mapName]
    rfl

/-! ### The verdict -/

/-- **A standard type is described alike by sources and by itself.** However it is spelled, with any
modules before its names and with or without a word on hashing, its tokens are read as a written type
whose descriptor, in any graph of definitions that it stands in, is down to any level the one that the
type gives itself; and this is its descriptor among models, whatever models there are. -/
theorem described_of_written {u : TypeExpr} {t : TypeSyntax} (h : u.Written t) (levels : Nat) :
    (∀ tokens, Spelled tokens t →
        Grammar.run? (fun rules => Grammar.type rules true) tokens = some t) ∧
      (∀ (defs : Definitions) (roots : List TypeRef)
        (hmem : TypeRef.ofSyntax t ∈ defs.typeRefs roots),
        (defs.graph roots).outline levels ⟨TypeRef.ofSyntax t, hmem⟩ = u.outline levels) ∧
      ∀ models : Models, models.outline levels u = u.outline levels := by
  refine ⟨fun tokens => Grammar.run?_type_of_spelled, fun defs roots hmem => ?_, fun models => ?_⟩
  · exact defs.outline_graph levels h.isStandard (ofSyntax_of_written h)
  · exact models.definitions.outline_graph levels h.isStandard rfl

/-- Headers by name, each perhaps a row of bytes. -/
def headers : TypeExpr :=
  .map .hashMap (.container .arc (.scalar .str))
    (.container .option (.container .slice (.scalar .u8)))

/-- The modules before the name of the map, and before that of its hasher. -/
def collectionsFront : Front := { modules := [{ name := "std" }, { name := "collections" }] }

/-- The modules before the name of a hasher. -/
def hashFront : Front := { rooted := true, modules := [{ name := "std" }, { name := "hash" }] }

/-- The tokens of the key, of the value and of the hasher. -/
def headersArguments : List TypeArgument :=
  [{ tokens := [.plain "Arc", .punct '<' false, .plain "str", .punct '>' true],
     type := .path { name := "Arc" } [.type (.path { name := "str" } [] true [.plain "str"])] true
       [.plain "Arc", .punct '<' false, .plain "str", .punct '>' false],
     joint := false },
   { tokens := [.plain "Option", .punct '<' true, .group .bracket [.plain "u8"], .punct '>' true],
     type := .path { name := "Option" }
       [.type (.slice (.path { name := "u8" } [] true [.plain "u8"]))] true
       [.plain "Option", .punct '<' false, .group .bracket [.plain "u8"], .punct '>' false],
     joint := true },
   { tokens := hashFront.tokens ++ [.plain "RandomState"],
     type := .path { name := "RandomState" } [] false (hashFront.tokens ++ [.plain "RandomState"]),
     joint := false }]

/-- The tokens of the map. -/
def headersTokens : List Token :=
  collectionsFront.tokens ++ .plain "HashMap" :: .punct '<' false ::
    (TypeArgument.listTokens true headersArguments ++ [.punct '>' false])

/-- The map as it is read. -/
def headersSyntax : TypeSyntax :=
  .path { name := "HashMap" } (headersArguments.map fun a => .type a.type) false
    (collectionsFront.tokens ++ .plain "HashMap" :: (Token.operator "<" ++
      TypeArgument.listTokens true (headersArguments.map TypeArgument.again) ++ Token.operator ">"))

/-- The example is written like this. -/
theorem written_headersSyntax : headers.Written headersSyntax := by
  have hnone : ∀ {c : Container}, (none : Option TypeSyntax).isSome → c.takesHasher = true := nofun
  have hhasher : (some (TypeSyntax.path { name := "RandomState" } [] false
      (hashFront.tokens ++ [.plain "RandomState"]))).isSome →
      MapContainer.hashMap.takesHasher = true := fun _ => rfl
  have hkey := Written.container .arc none true
    [.plain "Arc", .punct '<' false, .plain "str", .punct '>' false] (by decide) hnone
    (.scalar .str true [.plain "str"])
  have hvalue := Written.container .option none true
    [.plain "Option", .punct '<' false, .group .bracket [.plain "u8"], .punct '>' false] (by decide)
    hnone (.slice (.scalar .u8 true [.plain "u8"]))
  exact .map .hashMap _ false _ hhasher hkey hvalue

/-- The example is spelled with these tokens. -/
theorem spelled_headersTokens : Spelled headersTokens headersSyntax := by
  have hname : ∀ name : String, name ∉ reservedWords → ({ name } : Identifier).IsFree :=
    fun _ hname => .inr hname
  have hstd : ({ name := "std" } : Identifier).IsModule := .inl (hname _ (by decide))
  have hcollections : ∀ id ∈ collectionsFront.modules, id.IsModule :=
    List.forall_mem_cons.2 ⟨hstd, List.forall_mem_singleton.2 (.inl (hname _ (by decide)))⟩
  have hhash : ∀ id ∈ hashFront.modules, id.IsModule :=
    List.forall_mem_cons.2 ⟨hstd, List.forall_mem_singleton.2 (.inl (hname _ (by decide)))⟩
  have hkey : Spelled [.plain "str"] (.path { name := "str" } [] true [.plain "str"]) :=
    .name {} { name := "str" } nofun (hname _ (by decide))
  have hbytes : Spelled [.group .bracket [.plain "u8"]]
      (.slice (.path { name := "u8" } [] true [.plain "u8"])) :=
    .slice (.name {} { name := "u8" } nofun (hname _ (by decide)))
  have hsingle : ∀ {tokens : List Token} {t : TypeSyntax}, Spelled tokens t →
      ∀ a ∈ [({ tokens, type := t, joint := false } : TypeArgument)], Spelled a.tokens a.type :=
    fun h => List.forall_mem_singleton.2 h
  have harguments : ∀ a ∈ headersArguments, Spelled a.tokens a.type :=
    List.forall_mem_cons.2
      ⟨.generic {} { name := "Arc" } nofun (hname _ (by decide)) false (List.cons_ne_nil _ [])
        (hsingle hkey) false true,
      List.forall_mem_cons.2
        ⟨.generic {} { name := "Option" } nofun (hname _ (by decide)) true (List.cons_ne_nil _ [])
          (hsingle hbytes) false true,
        List.forall_mem_singleton.2
          (.name hashFront { name := "RandomState" } hhash (hname _ (by decide)))⟩⟩
  exact .generic collectionsFront { name := "HashMap" } hcollections (hname _ (by decide)) false
    (List.cons_ne_nil _ _) harguments true false

/-- The example is read from its tokens, and described alike by its graph and by itself. -/
theorem described_of_written_headers :
    Grammar.run? (fun rules => Grammar.type rules true) headersTokens = some headersSyntax ∧
      (∃ hmem, (Definitions.graph .empty [headers.typeRef]).outline 3
        ⟨TypeRef.ofSyntax headersSyntax, hmem⟩ = headers.outline 3) ∧
      Models.empty.outline 3 headers = headers.outline 3 := by
  obtain ⟨hread, hsource, hmodels⟩ := described_of_written written_headersSyntax 3
  have hmem : TypeRef.ofSyntax headersSyntax ∈ Definitions.typeRefs .empty [headers.typeRef] := by
    rw [ofSyntax_of_written written_headersSyntax]
    exact (Models.empty.root headers).2
  exact ⟨hread headersTokens spelled_headersTokens, ⟨hmem, hsource _ _ hmem⟩, hmodels _⟩

end TypeExpr

end TypeSchema
