import TypeSchema.Descriptor
import TypeSchema.OrderedMap

/-!
# Descriptions

A description is a descriptor written out: containers around descriptions, fields added one by one.
It may name entries of a catalog, so that types can contain themselves. The descriptions that occur
in a list of roots and in the catalog form a graph.
-/

namespace TypeSchema

/-- A descriptor written out. -/
inductive Description where
  /-- A descriptor without elements. -/
  | bare (identity : String) (kind : Kind)
  /-- Lists of a type. -/
  | list (item : Description)
  /-- Sets of a type. -/
  | set (item : Description)
  /-- Maps from one type to another. -/
  | map (key value : Description)
  /-- What the catalog has under a name. -/
  | named (key : String)
  /-- A type with one more element at the end. -/
  | field (base : Description) (name : String) (optional : Bool) (type : Description)
  /-- A type whose values may be absent. -/
  | nullable (base : Description)
  /-- A type that has asked for a schema. -/
  | eligible (base : Description)
  deriving Repr, DecidableEq

namespace Description

/-- A plain value. -/
def primitive (type : Primitive) : Description := .bare type.name (.primitive type)

/-- The description and all it is written with. -/
def parts : Description → List Description
  | d@(bare _ _) => [d]
  | d@(list item) => d :: item.parts
  | d@(set item) => d :: item.parts
  | d@(map key value) => d :: (key.parts ++ value.parts)
  | d@(named _) => [d]
  | d@(field base _ _ type) => d :: (base.parts ++ type.parts)
  | d@(nullable base) => d :: base.parts
  | d@(eligible base) => d :: base.parts

/-- The descriptor, given those of the catalog. -/
def node (catalog : String → Node Description) : Description → Node Description
  | bare identity kind => { identity, kind }
  | list item => .list item (item.node catalog).identity
  | set item => .set item (item.node catalog).identity
  | map key value => .map key (key.node catalog).identity value (value.node catalog).identity
  | named key => catalog key
  | field base name optional type =>
    let inner := base.node catalog
    { inner with elements := inner.elements ++ [⟨name, optional, type⟩] }
  | nullable base => { base.node catalog with nullable := true }
  | eligible base => { base.node catalog with eligible := true }

/-- A description is one of its parts. -/
@[simp] theorem self_mem_parts (d : Description) : d ∈ d.parts := by
  cases d <;> simp [parts]

/-- The parts of a part are parts. -/
theorem parts_subset {d e : Description} (h : e ∈ d.parts) : e.parts ⊆ d.parts := by
  induction d with
  | bare => simp_all [parts]
  | named => simp_all [parts]
  | list item ih | set item ih | nullable item ih | eligible item ih =>
    rcases List.mem_cons.1 h with rfl | h
    · exact List.Subset.refl _
    · exact List.subset_cons_of_subset _ (ih h)
  | map a b iha ihb | field a _ _ b iha ihb =>
    rcases List.mem_cons.1 h with rfl | h
    · exact List.Subset.refl _
    · refine List.subset_cons_of_subset _ fun x hx => ?_
      rcases List.mem_append.1 h with h | h
      · exact List.mem_append_left _ (iha h hx)
      · exact List.mem_append_right _ (ihb h hx)

/-- The elements of a descriptor are parts of the description or stem from the catalog. -/
theorem mem_elements_node (catalog : String → Node Description) (d : Description)
    {e : Element Description} (h : e ∈ (d.node catalog).elements) :
    e.target ∈ d.parts ∨ ∃ key, e ∈ (catalog key).elements := by
  induction d with
  | bare => simp [node] at h
  | named key => exact .inr ⟨key, h⟩
  | list item | set item =>
    left
    simp only [node, Node.list, Node.set, List.mem_singleton] at h
    subst h
    simp [parts]
  | map key value =>
    left
    simp only [node, Node.map, List.mem_cons, List.not_mem_nil, or_false] at h
    rcases h with rfl | rfl <;> simp [parts]
  | nullable base ih | eligible base ih =>
    exact (ih h).imp_left (List.mem_cons_of_mem _)
  | field base name optional type ih =>
    simp only [node, List.mem_append, List.mem_singleton] at h
    rcases h with h | rfl
    · exact (ih h).imp_left fun h => by simp [parts, h]
    · exact .inl (by simp [parts])

end Description

/-- Descriptions under names. -/
abbrev Catalog := List (String × Description)

namespace Catalog

/-- The descriptor an entry stands for. Entries may stand for other entries; `hops` bounds how
often, and a name without an entry is a type of which only the name is known. -/
def nodeNamed (catalog : Catalog) : (hops : Nat) → String → Node Description
  | 0, key => .contextual key
  | hops + 1, key =>
    match catalog.lookup key with
    | none => .contextual key
    | some d => d.node (nodeNamed catalog hops)

/-- The descriptor of a description. A chain of entries that stand for each other is no longer than
the catalog. -/
def node (catalog : Catalog) (d : Description) : Node Description :=
  d.node (nodeNamed catalog catalog.length)

/-- All descriptions that occur in the roots and in the catalog. -/
def descriptions (catalog : Catalog) (roots : List Description) : List Description :=
  roots.flatMap Description.parts ++ catalog.flatMap fun entry => entry.2.parts

/-- What a named type is made of is described in the catalog. -/
theorem mem_elements_nodeNamed (catalog : Catalog) (hops : Nat) (key : String)
    {e : Element Description} (h : e ∈ (catalog.nodeNamed hops key).elements) :
    e.target ∈ catalog.flatMap fun entry => entry.2.parts := by
  induction hops generalizing key with
  | zero => simp [nodeNamed, Node.contextual] at h
  | succ hops ih =>
    rw [nodeNamed] at h
    split at h
    · simp [Node.contextual] at h
    · next d hd =>
      rcases d.mem_elements_node _ h with h | ⟨other, h⟩
      · obtain ⟨before, after, hcatalog, -⟩ := List.lookup_eq_some_iff.1 hd
        refine List.mem_flatMap.2 ⟨(key, d), ?_, h⟩
        rw [hcatalog]
        exact List.mem_append_right before List.mem_cons_self
      · exact ih other h

/-- The elements of an occurring description occur. -/
theorem closed (catalog : Catalog) (roots : List Description) :
    ∀ d ∈ catalog.descriptions roots, ∀ e ∈ (catalog.node d).elements,
      e.target ∈ catalog.descriptions roots := by
  intro d hd e he
  rcases d.mem_elements_node _ he with h | ⟨key, h⟩
  · simp only [descriptions, List.mem_append, List.mem_flatMap] at *
    rcases hd with ⟨root, hroot, hd⟩ | ⟨entry, hentry, hd⟩
    · exact .inl ⟨root, hroot, Description.parts_subset hd h⟩
    · exact .inr ⟨entry, hentry, Description.parts_subset hd h⟩
  · exact List.mem_append_right _ (mem_elements_nodeNamed catalog _ key h)

/-- The graph of all descriptions that occur in the roots and in the catalog. -/
def graph (catalog : Catalog) (roots : List Description) :
    Graph {d : Description // d ∈ catalog.descriptions roots} :=
  Graph.ofClosed catalog.node (catalog.descriptions roots) (catalog.closed roots)

/-- The references of the roots. -/
def rootRefs (catalog : Catalog) (roots : List Description) :
    List {d : Description // d ∈ catalog.descriptions roots} :=
  roots.attach.map fun root =>
    ⟨root.1, List.mem_append_left _ (List.mem_flatMap.2 ⟨root.1, root.2, root.1.self_mem_parts⟩)⟩

end Catalog

end TypeSchema
