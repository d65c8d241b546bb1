import TypeSchema.Proofs.Batch
import TypeSchema.Proofs.TypeRef.Identity
import TypeSchema.Source.Table

/-!
# Schemas of a table of sources

* `AllTypes` is the invariant of a table: each type stands under its own name, and a property of all
  types that are put in is one of all types in it. Adding a type keeps it (`AllTypes.insert`), hence
  adding any number of them does (`AllTypes.insertAll`).
* `collect_lawful`: if a name has a schema, everything below its type is well formed, and no failure
  is internal. This needs the table to be `Clear`: a list of plain values and a list of a type that is
  called like them **have one identity**, and of the two only the one that is met first is looked at.
* `collect_mistaken_lookalikes` shows what comes of a table that is not.
-/

namespace TypeSchema

/-! ### The types of a table -/

/-- Is the type such as source text can give: is its name a name, and are the types of its fields
well named? All types that are read from texts are (`SourceTable.wellNamed_of_mem_typesIn`). -/
def SourceType.WellNamed (t : SourceType) : Prop :=
  IsName t.name ∧ ∀ field ∈ t.fields, field.type.WellNamed

instance : DecidablePred SourceType.WellNamed := fun _ => inferInstanceAs (Decidable (_ ∧ _))

namespace SourceTable

variable {P : SourceType → Prop} {table : SourceTable}

/-- Does each type in the table stand under its name, and have a property? -/
def AllTypes (P : SourceType → Prop) (table : SourceTable) : Prop :=
  ∀ entry ∈ table.types.entries, entry.1 = entry.2.name ∧ P entry.2

/-- An empty table holds nothing that could be wrong. -/
@[simp] theorem allTypes_empty : AllTypes P empty := fun _ h => absurd h List.not_mem_nil

/-- Adding a type that has the property keeps the invariant. -/
theorem AllTypes.insert (h : table.AllTypes P) {t : SourceType} (ht : P t) :
    (table.insert t).value.AllTypes P := by
  intro entry hentry
  rcases mem_putEntry hentry with rfl | hold
  · exact ⟨rfl, ht⟩
  · exact h entry hold

/-- Adding types that have the property keeps the invariant. -/
theorem AllTypes.insertAll {types : List SourceType} (h : table.AllTypes P)
    (htypes : ∀ t ∈ types, P t) : (table.insertAll types).value.AllTypes P := by
  induction types generalizing table with
  | nil => exact h
  | cons t rest ih =>
    have hhead : (table.insert t).value.AllTypes P := h.insert (htypes t List.mem_cons_self)
    exact ih hhead fun u hu => htypes u (List.mem_cons_of_mem _ hu)

/-- Under a name that the table contains there is a type of the name. -/
theorem AllTypes.exists_of_contains (h : table.AllTypes P) {name : String}
    (hname : table.contains name = true) : ∃ t, P t ∧ t.name = name := by
  obtain ⟨entry, hentry, rfl⟩ := List.mem_map.1 (OrderedMap.contains_iff_mem_keys.1 hname)
  obtain ⟨hkey, hP⟩ := h entry hentry
  exact ⟨entry.2, hP, hkey.symm⟩

/-- A definition of the table is that of a type in it, under its name. -/
theorem AllTypes.exists_of_mem_definitions (h : table.AllTypes P) {entry : String × Definition}
    (hentry : entry ∈ table.definitions.entries) :
    ∃ t, P t ∧ entry = (t.name, t.definition) := by
  obtain ⟨⟨name, t⟩, hmem, rfl⟩ := List.mem_map.1 hentry
  obtain ⟨hkey, hP⟩ := h _ hmem
  exact ⟨t, hP, congrArg (·, t.definition) hkey⟩

/-- In a table of which each type stands under its name, so do the definitions. -/
theorem AllTypes.keyed (h : table.AllTypes P) : table.definitions.Keyed := by
  intro name d hd
  obtain ⟨t, -, heq⟩ := h.exists_of_mem_definitions (OrderedMap.mem_of_get? hd)
  cases heq
  rfl

/-- The fields of a definition are those of the type. -/
@[simp] theorem fields_definition (t : SourceType) :
    t.definition.fields = t.fields.map SourceField.fieldDef := by
  unfold SourceType.definition SourceType.fields Definition.fields
  cases t.shape <;> rfl

/-! ### The roots of a run -/

/-- The types whose schemas are generated: the named types of the table, apart from those that can
have none. -/
def roots (table : SourceTable) (names : List String) : List TypeRef :=
  (names.filter fun name =>
    !table.rejections.any (·.1 == name) && table.contains name).map TypeRef.named

/-- The graph of the types that the roots and the table are written with. -/
abbrev graph (table : SourceTable) (names : List String) :
    Graph {t : TypeRef // t ∈ table.definitions.typeRefs (table.roots names)} :=
  table.definitions.graph (table.roots names)

/-- The references of the roots. -/
abbrev starts (table : SourceTable) (names : List String) :
    List {t : TypeRef // t ∈ table.definitions.typeRefs (table.roots names)} :=
  table.definitions.rootRefs (table.roots names)

/-- A root is the name of a type in the table. -/
theorem exists_of_mem_roots {names : List String} {t : TypeRef} (ht : t ∈ table.roots names) :
    ∃ name ∈ names, table.contains name = true ∧ t = .named name := by
  obtain ⟨name, hname, rfl⟩ := List.mem_map.1 ht
  obtain ⟨hmem, hkept⟩ := List.mem_filter.1 hname
  rw [Bool.and_eq_true] at hkept
  exact ⟨name, hmem, hkept.2, rfl⟩

/-- All types in the graph of a table of well-named types are well named. -/
theorem AllTypes.wellNamed_typeRefs (h : table.AllTypes SourceType.WellNamed)
    {names : List String} :
    ∀ t ∈ table.definitions.typeRefs (table.roots names), t.WellNamed := by
  intro t ht
  simp only [Definitions.typeRefs, List.mem_append, List.mem_flatMap] at ht
  rcases ht with ⟨root, hroot, hpart⟩ | ⟨entry, hentry, field, hfield, hpart⟩
  · obtain ⟨name, -, hcontains, rfl⟩ := exists_of_mem_roots hroot
    obtain ⟨u, hu, rfl⟩ := h.exists_of_contains hcontains
    exact TypeRef.WellNamed.of_mem_parts (t := .named u.name) hu.1 hpart
  · obtain ⟨u, hu, rfl⟩ := h.exists_of_mem_definitions hentry
    rw [fields_definition] at hfield
    obtain ⟨sourceField, hmem, rfl⟩ := List.mem_map.1 hfield
    exact (hu.2 sourceField hmem).of_mem_parts hpart

/-! ### Lawful outcomes -/

/-- Is what can be mistaken for a container of plain values, among the types below the roots, sound
all the same? -/
def Clear (table : SourceTable) (names : List String) : Prop :=
  ∀ r s, (table.graph names).ReachedFrom (table.starts names) r →
    (table.graph names).ReachedFrom (table.starts names) s →
    (table.graph names).identity r = (table.graph names).identity s →
    TypeRef.Mistakable r.1.core s.1.core → (table.graph names).Sound s

/-- The outcome of a run is that of its batch, with failures added that are not internal. -/
theorem lawful_collect {names : List String} {config : GeneratorConfig}
    (hfaithful : (table.graph names).Faithful (table.starts names)) :
    (table.collect names config).value.Lawful (table.graph names) (table.starts names) := by
  have hbatch : (Batch.run (table.graph names) table.docRegistry.value.1 config
      (table.starts names)).value.Lawful (table.graph names) (table.starts names) :=
    Batch.lawful_run hfaithful
  refine (hbatch.addFailures ?_).addFailures ?_
  · intro failure hfailure
    obtain ⟨_, -, rfl⟩ := List.mem_map.1 hfailure
    exact not_false
  · intro failure hfailure
    obtain ⟨_, -, rfl⟩ := List.mem_map.1 hfailure
    exact not_false

/-- **The schemas and failures of a run.** In a table of any types such as source text can give, and
for any names: if a name has a schema, everything below its type is well formed, so that nothing there
has not asked for a schema, is unknown or has keys other than texts; and no failure says that
generation met what validation should have refused. -/
theorem collect_lawful {types : List SourceType} {names : List String}
    (hnamed : ∀ t ∈ types, t.WellNamed) (hclear : (empty.insertAll types).value.Clear names)
    (config : GeneratorConfig) :
    let table := (empty.insertAll types).value
    let outcome := (table.collect names config).value
    (∀ name, outcome.schemas.contains name = true →
      ∃ r ∈ table.starts names, r.1 = .named name ∧
        ∀ s, (table.graph names).Reaches r s → (table.graph names).WellFormed s) ∧
      ∀ failure ∈ outcome.failures, ¬ failure.2.Internal := by
  intro table outcome
  have htypes : table.AllTypes SourceType.WellNamed := allTypes_empty.insertAll hnamed
  have hfaithful : (table.graph names).Faithful (table.starts names) :=
    Definitions.faithful_graph htypes.keyed htypes.wellNamed_typeRefs hclear
  have hlawful : outcome.Lawful (table.graph names) (table.starts names) :=
    lawful_collect hfaithful
  refine ⟨fun name hname => ?_, hlawful.external⟩
  obtain ⟨r, hr, hidentity, hsound⟩ := hlawful.sound name hname
  obtain ⟨⟨root, hroot⟩, -, rfl⟩ := List.mem_map.1 hr
  obtain ⟨other, -, -, rfl⟩ := exists_of_mem_roots hroot
  have hother : other = name := by
    rw [← Definitions.identity_named htypes.keyed other]
    exact hidentity
  exact ⟨_, hr, congrArg _ hother, hsound⟩

/-- A field about which there is nothing to say but its name and its type. -/
def plainField (name : String) (type : TypeRef) : SourceField :=
  { name, type, optional := false, comment := none, renamed := false, flattened := false }

/-- A struct with a list of whole numbers and a list of a type that is called like them. -/
def lookalikes (derives : Bool) (shape : SourceShape) : List SourceType :=
  [{ name := "Holder", eligible := true, comment := none, renamed := false,
     shape := .object
       [plainField "plain" (.list (.primitive .int)), plainField "named" (.list (.named "Int"))] },
   { name := "Int", eligible := derives, comment := none, shape, renamed := false }]

/-- A shape that the type called like whole numbers may have. -/
def boxShape : SourceShape := .object [plainField "v" (.primitive .long)]

/-- A table in which everything is well formed is clear. -/
theorem clear_of_forall {names : List String}
    (h : ∀ r ∈ (table.graph names).refs, (table.graph names).WellFormed r) : table.Clear names :=
  fun _ _ _ _ _ _ s _ => h s ((table.graph names).mem_refs s)

/-- The two lists have one identity, but if the type that is called like whole numbers derives a
schema, nothing is wrong with either of them. -/
theorem collect_lawful_lookalikes :
    let table := (empty.insertAll (lookalikes true boxShape)).value
    let outcome := (table.collect ["Holder"] {}).value
    outcome.schemas.contains "Holder" = true ∧
      (∀ name, outcome.schemas.contains name = true →
        ∃ r ∈ table.starts ["Holder"], r.1 = .named name ∧
          ∀ s, (table.graph ["Holder"]).Reaches r s → (table.graph ["Holder"]).WellFormed s) ∧
      ∀ failure ∈ outcome.failures, ¬ failure.2.Internal := by
  have hnamed : ∀ t ∈ lookalikes true boxShape, t.WellNamed := by decide
  have hclear : (empty.insertAll (lookalikes true boxShape)).value.Clear ["Holder"] :=
    clear_of_forall (by decide)
  exact ⟨by cbv, collect_lawful hnamed hclear {}⟩

/-- If it does not, the list of them passes for the list of whole numbers before it: a schema is made
of an enumeration that has not asked for one, and a struct that has not is met by generation. -/
theorem collect_mistaken_lookalikes :
    (let table := (empty.insertAll (lookalikes false (.enumeration ["One", "Two"]))).value
      let outcome := (table.collect ["Holder"] {}).value
      outcome.schemas.contains "Holder" = true ∧
        ¬ ∃ r ∈ table.starts ["Holder"], r.1 = .named "Holder" ∧
          ∀ s, (table.graph ["Holder"]).Reaches r s → (table.graph ["Holder"]).WellFormed s) ∧
      (let table := (empty.insertAll (lookalikes false boxShape)).value
        let outcome := (table.collect ["Holder"] {}).value
        outcome.failures = [("Holder", .schema (.notEligible "Int"))]) := by
  refine ⟨⟨by cbv, ?_⟩, by cbv⟩
  rintro ⟨r, hr, -, hsound⟩
  have hbelow : ∀ r ∈ (empty.insertAll (lookalikes false (.enumeration ["One", "Two"]))).value.starts
      ["Holder"], ∃ s ∈ (graph _ ["Holder"]).parts r, ∃ t ∈ (graph _ ["Holder"]).parts s,
        ¬ (graph _ ["Holder"]).WellFormed t := by
    decide
  obtain ⟨s, hs, t, ht, hill⟩ := hbelow r hr
  exact hill (hsound t (Graph.Reaches.head hs (Graph.Reaches.of_mem_parts ht)))

end SourceTable

end TypeSchema
