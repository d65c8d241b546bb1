import TypeSchema.Generation
import TypeSchema.Proofs.Descriptor.Coherence
import TypeSchema.TypeRef

/-!
# Graphs that hold the same descriptors

How a graph was cut down to finitely many references does not matter to the types in it.

* `Morphism` is a map of references under which every type keeps its descriptor, down to the
  references of its elements.
* `sound_map_iff` and `schema_map`: a type and its image **are sound together, and have one schema**.
* `Definitions.widen` is the morphism from the graph of some roots to the graph of more of them.
-/

namespace TypeSchema

variable {Ref Ref' : Type}

/-- The descriptor with other references. -/
def Node.retarget (f : Ref → Ref') (node : Node Ref) : Node Ref' where
  identity := node.identity
  kind := node.kind
  nullable := node.nullable
  eligible := node.eligible
  elements := node.elements.map fun e =>
    { name := e.name, optional := e.optional, target := f e.target }

namespace Graph

/-- A map of the references of one graph to those of another one that keeps descriptors. -/
structure Morphism (g : Graph Ref) (h : Graph Ref') where
  /-- The image of a reference. -/
  map : Ref → Ref'
  /-- The image has the same descriptor, with images as elements. -/
  node_map : ∀ r, h.node (map r) = (g.node r).retarget map

namespace Morphism

variable {g : Graph Ref} {h : Graph Ref'} (φ : Morphism g h)

/-- A type and its image have one identity. -/
@[simp, grind =] theorem identity_map (r : Ref) : h.identity (φ.map r) = g.identity r := by
  rw [identity, φ.node_map]
  rfl

/-- A type and its image are of one kind. -/
@[simp, grind =] theorem kind_map (r : Ref) : (h.node (φ.map r)).kind = (g.node r).kind := by
  rw [φ.node_map]
  rfl

/-- A type and its image both admit null, or neither does. -/
@[simp, grind =]
theorem nullable_map (r : Ref) : (h.node (φ.map r)).nullable = (g.node r).nullable := by
  rw [φ.node_map]
  rfl

/-- The types of the elements of an image are images. -/
@[simp] theorem children_map (r : Ref) : h.children (φ.map r) = (g.children r).map φ.map := by
  simp [children, φ.node_map, Node.retarget]

/-- The parts of an image are the images of the parts. -/
@[simp] theorem parts_map (r : Ref) : h.parts (φ.map r) = (g.parts r).map φ.map := by
  have hlength : (h.node (φ.map r)).elements.length = (g.node r).elements.length := by
    simp [φ.node_map, Node.retarget]
  unfold parts
  rw [φ.kind_map, φ.children_map, hlength]
  cases (g.node r).kind with
  | list | set =>
    by_cases hone : (g.node r).elements.length = 1
    · simp only [hone, if_true]
    · simp only [hone, if_false, List.map_nil]
  | map =>
    by_cases htwo : (g.node r).elements.length = 2
    · simp only [htwo, if_true, List.map_drop]
    · simp only [htwo, if_false, List.map_nil]
  | object | primitive | enumeration | polymorphic | contextual => rfl

/-! ### Soundness -/

/-- A type is well formed if and only if its image is. -/
@[simp, grind =]
theorem wellFormed_map_iff (r : Ref) : h.WellFormed (φ.map r) ↔ g.WellFormed r := by
  unfold WellFormed
  rw [φ.kind_map]
  cases (g.node r).kind with
  | primitive | polymorphic | contextual => rfl
  | list | set | enumeration | object => simp [φ.node_map, Node.retarget]
  | map =>
    rcases helements : (g.node r).elements with _ | ⟨key, _ | ⟨value, _ | ⟨more, rest⟩⟩⟩ <;>
      simp [φ.node_map r, Node.retarget, helements]

/-- What is below a type has its image below that of the type. -/
@[grind ←]
theorem reaches_map {r s : Ref} (hrs : g.Reaches r s) : h.Reaches (φ.map r) (φ.map s) := by
  induction hrs with
  | refl => exact Reaches.refl _
  | tail _ ht ih =>
    refine ih.trans (Reaches.of_mem_parts ?_)
    rw [φ.parts_map]
    exact List.mem_map_of_mem ht

/-- Below an image there are images only. -/
theorem exists_of_reaches_map {r : Ref} {t : Ref'} (hrt : h.Reaches (φ.map r) t) :
    ∃ s, g.Reaches r s ∧ φ.map s = t := by
  induction hrt with
  | refl => exact ⟨r, Reaches.refl r, rfl⟩
  | tail _ ht ih =>
    obtain ⟨s, hrs, rfl⟩ := ih
    rw [φ.parts_map] at ht
    obtain ⟨u, hu, rfl⟩ := List.mem_map.1 ht
    exact ⟨u, hrs.trans (Reaches.of_mem_parts hu), rfl⟩

/-- **A type is sound if and only if its image is.** -/
theorem sound_map_iff (r : Ref) : h.Sound (φ.map r) ↔ g.Sound r := by
  constructor
  · exact fun hsound s hrs => (φ.wellFormed_map_iff s).1 (hsound _ (φ.reaches_map hrs))
  · intro hsound t hrt
    obtain ⟨s, hrs, rfl⟩ := φ.exists_of_reaches_map hrt
    exact (φ.wellFormed_map_iff s).2 (hsound s hrs)

/-! ### Schemas -/

section

open Generator

variable {docs : DocRegistry} {schemaOf : List String → Ref → Attempt SchemaError Schema}
  {schemaOf' : List String → Ref' → Attempt SchemaError Schema}

/-- The item of a list with other references. -/
@[simp] theorem item?_retarget (f : Ref → Ref') (node : Node Ref) :
    item? (node.retarget f) = (item? node).map f := by
  obtain ⟨identity, kind, nullable, eligible, elements⟩ := node
  rcases elements with _ | ⟨item, _ | ⟨more, rest⟩⟩ <;> simp [item?, Node.retarget, Except.map]

/-- The value of a map with other references. -/
@[simp] theorem value?_retarget (f : Ref → Ref') (node : Node Ref) :
    value? (node.retarget f) = (value? node).map f := by
  obtain ⟨identity, kind, nullable, eligible, elements⟩ := node
  rcases elements with _ | ⟨key, _ | ⟨value, _ | ⟨more, rest⟩⟩⟩ <;>
    simp [value?, Node.retarget, Except.map]

/-- Going on from an image does the same as going on from what it is the image of. -/
theorem bind_ofExcept_map {f : Ref → Ref'} (x : Except SchemaError Ref)
    {next : Ref → Attempt SchemaError Schema} {next' : Ref' → Attempt SchemaError Schema}
    (hnext : ∀ r, next' (f r) = next r) :
    (Attempt.ofExcept (x.map f) >>= next') = (Attempt.ofExcept x >>= next) := by
  cases x with
  | error e => rfl
  | ok r =>
    show next' (f r) = next r
    exact hnext r

/-- The fields of a type and of its image are read alike, if their types have one schema. -/
theorem readFields_map {path : List String} {identity : String}
    (hparts : ∀ path r, schemaOf' path (φ.map r) = schemaOf path r) (elements : List (Element Ref))
    (fields : Fields) :
    readFields h docs (schemaOf' path) identity
        (elements.map fun e => { name := e.name, optional := e.optional, target := φ.map e.target })
        fields =
      readFields g docs (schemaOf path) identity elements fields := by
  induction elements generalizing fields with
  | nil => rfl
  | cons element rest ih =>
    simp only [List.map_cons, readFields, hparts, φ.nullable_map]
    exact congrArg _ (funext fun schema => ih _)

/-- One step of generation does the same at a type and at its image, if it does so at the parts. -/
theorem schemaOfNode_map (hparts : ∀ path r, schemaOf' path (φ.map r) = schemaOf path r)
    (path : List String) (r : Ref) :
    schemaOfNode h docs schemaOf' path (h.node (φ.map r)) =
      schemaOfNode g docs schemaOf path (g.node r) := by
  have hkind := φ.kind_map r
  unfold schemaOfNode
  rw [hkind]
  cases (g.node r).kind with
  | primitive | enumeration | polymorphic => rfl
  | contextual =>
    rw [φ.node_map]
    rfl
  | list | set =>
    rw [φ.node_map, item?_retarget]
    exact bind_ofExcept_map _ fun s => by rw [hparts]
  | map =>
    rw [φ.node_map, value?_retarget]
    exact bind_ofExcept_map _ fun s => by rw [hparts]
  | object =>
    simp only [φ.node_map, Node.retarget, φ.readFields_map hparts]

/-- A type and its image have one schema at every depth, or fail alike. -/
theorem schemaAt_map (maxDepth levels : Nat) (path : List String) (r : Ref) :
    schemaAt h docs maxDepth levels path (φ.map r) = schemaAt g docs maxDepth levels path r := by
  induction levels generalizing path r with
  | zero => rw [schemaAt, schemaAt, φ.identity_map]
  | succ levels ih =>
    rw [schemaAt, schemaAt, φ.schemaOfNode_map ih, φ.node_map]
    rfl

end

/-- **A type and its image have one schema**, or fail alike. -/
theorem schema_map (docs : DocRegistry) (config : GeneratorConfig) (r : Ref) :
    h.schema docs config (φ.map r) = g.schema docs config r := φ.schemaAt_map _ _ _ r

end Morphism

end Graph

/-! ### Graphs of type expressions -/

namespace Definitions

variable (defs : Definitions) {roots more : List TypeRef}

/-- More roots are written with more types. -/
theorem typeRefs_subset (hroots : roots ⊆ more) : typeRefs defs roots ⊆ typeRefs defs more := by
  intro t ht
  rcases List.mem_append.1 ht with hroot | hdef
  · obtain ⟨root, hmem, hpart⟩ := List.mem_flatMap.1 hroot
    exact List.mem_append_left _ (List.mem_flatMap.2 ⟨root, hroots hmem, hpart⟩)
  · exact List.mem_append_right _ hdef

/-- The graph of some roots inside the graph of more of them. -/
def widen (hroots : roots ⊆ more) : Graph.Morphism (defs.graph roots) (defs.graph more) where
  map r := ⟨r.1, typeRefs_subset defs hroots r.2⟩
  node_map r := by simp [graph, Graph.ofClosed, Node.retarget, Function.comp_def]

end Definitions

end TypeSchema
