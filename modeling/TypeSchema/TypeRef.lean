import TypeSchema.Descriptor
import TypeSchema.OrderedMap

/-!
# Types by name

A type expression is built from plain values, containers and the names of defined types. Together
with a table of definitions it stands for a descriptor: containers describe themselves, and a name
stands for its definition or, without one, for a type of which only the name is known. The type
expressions that occur in a list of roots and in the definitions form a graph.
-/

namespace TypeSchema

/-- A type expression, reduced to what a schema depends on. -/
inductive TypeRef where
  /-- A plain value. -/
  | primitive (type : Primitive)
  /-- A value that may be absent. -/
  | option (inner : TypeRef)
  /-- A list. -/
  | list (item : TypeRef)
  /-- A set. -/
  | set (item : TypeRef)
  /-- A map. -/
  | map (key value : TypeRef)
  /-- A defined type. -/
  | named (name : String)
  /-- Any other type, as it is written. -/
  | unsupported (text : String)
  deriving Repr, DecidableEq, Inhabited

/-- A field of a defined type. -/
structure FieldDef where
  /-- Its name. -/
  name : String
  /-- Its type. -/
  type : TypeRef
  /-- Has it a default? -/
  optional : Bool
  deriving Repr, DecidableEq

/-- How the values of a defined type are built. -/
inductive Shape where
  /-- Named fields. -/
  | object (fields : List FieldDef)
  /-- One of a list of names. -/
  | enumeration (values : List String)
  /-- One of several shapes. -/
  | polymorphic
  /-- In a way that has no description. -/
  | undescribed
  deriving Repr, DecidableEq

/-- A defined type. -/
structure Definition where
  /-- The name by which the type is told from others. -/
  identity : String
  /-- Has it asked for a schema? -/
  eligible : Bool
  /-- How its values are built. -/
  shape : Shape
  deriving Repr, DecidableEq

namespace FieldDef

/-- The element of a field. -/
def element (field : FieldDef) : Element TypeRef :=
  { name := field.name, optional := field.optional, target := field.type }

end FieldDef

namespace Definition

/-- The fields; only an object has any. -/
def fields (d : Definition) : List FieldDef :=
  match d.shape with
  | .object fields => fields
  | _ => []

/-- The descriptor of a defined type. -/
def node (d : Definition) : Node TypeRef :=
  match d.shape with
  | .object fields =>
    { identity := d.identity, kind := .object, eligible := d.eligible,
      elements := fields.map FieldDef.element }
  | .enumeration values =>
    { identity := d.identity, kind := .enumeration values, eligible := d.eligible }
  | .polymorphic => { identity := d.identity, kind := .polymorphic, eligible := d.eligible }
  | .undescribed => .contextual d.identity

/-- The elements of a definition are its fields. -/
theorem mem_elements_node {d : Definition} {e : Element TypeRef} (h : e ∈ d.node.elements) :
    ∃ field ∈ d.fields, e.target = field.type := by
  unfold node at h
  split at h
  · next fields hshape =>
    obtain ⟨field, hmem, rfl⟩ := List.mem_map.1 h
    exact ⟨field, by simpa [Definition.fields, hshape] using hmem, rfl⟩
  all_goals simp [Node.contextual] at h

end Definition

namespace TypeRef

/-- The type expression and all it is written with. -/
def parts : TypeRef → List TypeRef
  | t@(primitive _) => [t]
  | t@(option inner) => t :: inner.parts
  | t@(list item) => t :: item.parts
  | t@(set item) => t :: item.parts
  | t@(map key value) => t :: (key.parts ++ value.parts)
  | t@(named _) => [t]
  | t@(unsupported _) => [t]

/-- A type is one of its parts. -/
@[simp] theorem self_mem_parts (t : TypeRef) : t ∈ t.parts := by
  cases t <;> simp [parts]

/-- The parts of a part are parts. -/
theorem parts_subset {t u : TypeRef} (h : u ∈ t.parts) : u.parts ⊆ t.parts := by
  induction t with
  | primitive => simp_all [parts]
  | named => simp_all [parts]
  | unsupported => simp_all [parts]
  | option inner ih | list item ih | set item ih =>
    rcases List.mem_cons.1 h with rfl | h
    · exact List.Subset.refl _
    · exact List.subset_cons_of_subset _ (ih h)
  | map a b iha ihb =>
    rcases List.mem_cons.1 h with rfl | h
    · exact List.Subset.refl _
    · refine List.subset_cons_of_subset _ fun x hx => ?_
      rcases List.mem_append.1 h with h | h
      · exact List.mem_append_left _ (iha h hx)
      · exact List.mem_append_right _ (ihb h hx)

end TypeRef

/-- Defined types by name. -/
abbrev Definitions := OrderedMap Definition

namespace Definitions

variable (defs : Definitions)

/-- The descriptor a name stands for. -/
def nodeNamed (name : String) : Node TypeRef :=
  match defs.get? name with
  | some d => d.node
  | none => .contextual name

/-- The descriptor of a type expression. -/
def node : TypeRef → Node TypeRef
  | .primitive type => .primitive type
  | .option inner => { node inner with nullable := true }
  | .list item => .list item (node item).identity
  | .set item => .set item (node item).identity
  | .map key value => .map key (node key).identity value (node value).identity
  | .named name => nodeNamed defs name
  | .unsupported text => .contextual text

/-- All type expressions that occur in the roots and in the fields of the definitions. -/
def typeRefs (roots : List TypeRef) : List TypeRef :=
  roots.flatMap TypeRef.parts ++
    defs.entries.flatMap fun entry => entry.2.fields.flatMap fun field => field.type.parts

/-- The elements of a descriptor are parts of the type expression or fields of a definition. -/
theorem mem_elements_node (t : TypeRef) {e : Element TypeRef} (h : e ∈ (node defs t).elements) :
    e.target ∈ t.parts ∨
      e.target ∈ defs.entries.flatMap fun entry =>
        entry.2.fields.flatMap fun field => field.type.parts := by
  induction t with
  | primitive => simp [node, Node.primitive] at h
  | unsupported => simp [node, Node.contextual] at h
  | option inner ih => exact (ih h).imp_left (List.mem_cons_of_mem _)
  | list item | set item =>
    left
    simp only [node, Node.list, Node.set, List.mem_singleton] at h
    subst h
    simp [TypeRef.parts]
  | map key value =>
    left
    simp only [node, Node.map, List.mem_cons, List.not_mem_nil, or_false] at h
    rcases h with rfl | rfl <;> simp [TypeRef.parts]
  | named name =>
    right
    simp only [node, nodeNamed] at h
    split at h
    · next d hd =>
      obtain ⟨field, hfield, htarget⟩ := Definition.mem_elements_node h
      rw [htarget]
      exact List.mem_flatMap.2
        ⟨(name, d), OrderedMap.mem_of_get? hd, List.mem_flatMap.2 ⟨field, hfield, field.type.self_mem_parts⟩⟩
    · simp [Node.contextual] at h

/-- The elements of an occurring type expression occur. -/
theorem closed (roots : List TypeRef) :
    ∀ t ∈ typeRefs defs roots, ∀ e ∈ (node defs t).elements,
      e.target ∈ typeRefs defs roots := by
  intro t ht e he
  rcases mem_elements_node defs t he with h | h
  · simp only [typeRefs, List.mem_append, List.mem_flatMap] at *
    rcases ht with ⟨root, hroot, ht⟩ | ⟨entry, hentry, field, hfield, ht⟩
    · exact .inl ⟨root, hroot, TypeRef.parts_subset ht h⟩
    · exact .inr ⟨entry, hentry, field, hfield, TypeRef.parts_subset ht h⟩
  · exact List.mem_append_right _ h

/-- The graph of all type expressions that occur in the roots and in the definitions. -/
def graph (roots : List TypeRef) : Graph {t : TypeRef // t ∈ typeRefs defs roots} :=
  Graph.ofClosed (node defs) (typeRefs defs roots) (closed defs roots)

/-- The references of the roots. -/
def rootRefs (roots : List TypeRef) : List {t : TypeRef // t ∈ typeRefs defs roots} :=
  roots.attach.map fun root =>
    ⟨root.1, List.mem_append_left _ (List.mem_flatMap.2 ⟨root.1, root.2, root.1.self_mem_parts⟩)⟩

end Definitions

end TypeSchema
