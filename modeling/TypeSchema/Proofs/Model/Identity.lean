import TypeSchema.Proofs.Model.Verdict
import TypeSchema.Proofs.TypeRef.Nesting

/-!
# Identities of models

Validation and documentation remember types by their identities. This is sound where types with one
identity are described alike.

* `legible_typeRef`: types that are built from derived models are legible, if brackets match in the
  full names of the models.
* `labels_graph` and `outline_present_graph` are what a graph shows of a type, absence apart.
* `alike_of_identity_eq`: two types have one identity if and only if they are nested in **one way** and
  name the same models, and then they are described alike **down to any level**.
-/

namespace TypeSchema

/-! ### What a graph shows of a type -/

namespace Definitions

variable {defs : Definitions} {roots : List TypeRef} {t u : TypeRef}

/-- The elements of a descriptor, with the identities of their types. -/
theorem labels_graph (r : {t : TypeRef // t ∈ typeRefs defs roots}) :
    ((defs.graph roots).node r).elements.map (fun e =>
        (e.name, e.optional, (defs.graph roots).identity e.target)) =
      (defs.node r.1).elements.map fun e => (e.name, e.optional, defs.identity e.target) := by
  rw [← List.attach_map_val (f := fun e : Element TypeRef =>
    (e.name, e.optional, defs.identity e.target))]
  simp [graph, Graph.ofClosed, Graph.identity, identity, Function.comp_def]

/-- The outline of a type in a graph without absence. -/
theorem outline_present_graph (levels : Nat) (r : {t : TypeRef // t ∈ typeRefs defs roots}) :
    (defs.graph roots).present.outline levels r =
      Outline.of (fun t => (defs.node t).present) levels r.1 := by
  have hclosed : ∀ t ∈ typeRefs defs roots, ∀ e ∈ (defs.node t).present.elements,
      e.target ∈ typeRefs defs roots := defs.closed roots
  exact Outline.of_ofClosed hclosed levels r

/-- Types that are one but for absence have the same elements, with the same identities. -/
theorem labels_eq (h : t.present = u.present) :
    (defs.node t).elements.map (fun e => (e.name, e.optional, defs.identity e.target)) =
      (defs.node u).elements.map fun e => (e.name, e.optional, defs.identity e.target) := by
  have hmarks : ∀ t, (defs.node t).elements.map (fun e => (e.name, e.optional, defs.identity e.target)) =
      ((defs.node t).present.retarget TypeRef.present).elements.map fun e =>
        (e.name, e.optional, defs.identity e.target) := fun t => by
    simp [Node.retarget, Node.present, Function.comp_def]
  rw [hmarks, retarget_node_eq h, ← hmarks]

end Definitions

/-! ### Types that are built from models -/

/-- What is known of the names in a type is known of what it means. -/
theorem TypeExpr.legible_typeRef {u : TypeExpr}
    (h : ∀ name ∈ u.modelNames, IsQualified name ∧ IsClosed name) : u.typeRef.Legible := by
  induction u with
  | scalar => trivial
  | container c inner ih => cases c <;> exact ih h
  | map _ key value ihk ihv =>
    exact ⟨ihk fun name hname => h name (List.mem_append_left _ hname),
      ihv fun name hname => h name (List.mem_append_right _ hname)⟩
  | model name => exact h name (List.mem_singleton_self name)

namespace Models

variable {models : Models} {t u : TypeExpr}

/-- What is known of the full names of models is known of the types that are built from them. -/
theorem Derived.legible (h : models.Derived t)
    (hclosed : ∀ name m, models.get? name = some m → IsClosed name) : t.typeRef.Legible := by
  refine TypeExpr.legible_typeRef fun name hname => ?_
  obtain ⟨m, hm⟩ := Option.isSome_iff_exists.1 (h.known name hname)
  exact ⟨h.qualified name m hm, hclosed name m hm⟩

/-- **Identities determine types.** Of two types that are built, to any depth, from plain values,
containers, wrappers and derived models, the identities are the same if and only if the types are
nested in the same way, wrappers and absence apart. Then the types are of one kind, with the same
names if they are enumerations, have both asked for a schema or neither, and have the same elements:
their names, whether they may be left out, and the identities of their types. So they look the same
down to any level, but for absence. -/
theorem alike_of_identity_eq (ht : models.Derived t) (hu : models.Derived u)
    (hclosed : ∀ name m, models.get? name = some m → IsClosed name) :
    let a := (models.graph t).node (models.root t)
    let b := (models.graph u).node (models.root u)
    (a.identity = b.identity ↔ t.typeRef.present = u.typeRef.present) ∧
      (a.identity = b.identity →
        a.kind = b.kind ∧ a.eligible = b.eligible ∧
          a.elements.map (fun e => (e.name, e.optional, (models.graph t).identity e.target)) =
            b.elements.map (fun e => (e.name, e.optional, (models.graph u).identity e.target)) ∧
          ∀ levels, (models.graph t).present.outline levels (models.root t) =
            (models.graph u).present.outline levels (models.root u)) := by
  intro a b
  have hiff : a.identity = b.identity ↔ t.typeRef.present = u.typeRef.present :=
    Definitions.identity_eq_iff ht.keyed (ht.legible hclosed) (hu.legible hclosed)
  refine ⟨hiff, fun hidentity => ?_⟩
  have hpresent : t.typeRef.present = u.typeRef.present := hiff.1 hidentity
  have hnode : (models.definitions.node t.typeRef).present.retarget TypeRef.present =
      (models.definitions.node u.typeRef).present.retarget TypeRef.present :=
    Definitions.retarget_node_eq hpresent
  refine ⟨congrArg Node.kind hnode, congrArg Node.eligible hnode, ?_, fun levels => ?_⟩
  · exact (Definitions.labels_graph (models.root t)).trans
      ((Definitions.labels_eq hpresent).trans (Definitions.labels_graph (models.root u)).symm)
  · exact (Definitions.outline_present_graph levels (models.root t)).trans
      ((Definitions.outline_present hpresent levels).trans
        (Definitions.outline_present_graph levels (models.root u)).symm)

/-- Tags, and pairs of a tag and a text. -/
def pairs : Models where
  entries :=
    { entries :=
        [("app::Tag", .derived (.enumeration ["Old", "New"]) .empty),
          ("app::Pair<app::Tag, alloc::string::String>", .derived (.object
            [{ name := "first", type := .model "app::Tag" },
              { name := "second", type := .scalar .string, optional := true }]) .empty)]
      nodup := by decide }

/-- All names in the table are qualified, brackets match in them, and all that are used are in it. -/
theorem derived_pairs (hknown : ∀ name ∈ t.modelNames, (pairs.get? name).isSome = true) :
    pairs.Derived t := by
  refine derived_of_entries hknown ?_
  show ∀ entry ∈ [_, _], _
  simp only [List.forall_mem_cons]
  refine ⟨⟨⟨_, _, rfl, nofun⟩, ⟨"app", "Tag", by decide, by decide⟩, by decide⟩,
    ⟨⟨_, _, rfl, nofun⟩, ⟨"app", "Pair<app::Tag, alloc::string::String>", by decide, by decide⟩,
      by decide⟩, fun _ h => absurd h List.not_mem_nil⟩

/-- Lists of pairs by text can be written with other containers and wrappers, under one identity, and
are described alike. -/
theorem alike_of_identity_eq_pairs :
    let pair : TypeExpr := .model "app::Pair<app::Tag, alloc::string::String>"
    let t : TypeExpr := .map .hashMap (.scalar .string) (.container .vec (.container .option pair))
    let u : TypeExpr := .map .treeMap (.container .box (.scalar .str)) (.container .slice pair)
    (pairs.graph t).identity (pairs.root t) =
        "Map<String, List<app::Pair<app::Tag, alloc::string::String>>>" ∧
      (pairs.graph t).identity (pairs.root t) = (pairs.graph u).identity (pairs.root u) ∧
      ∀ levels, (pairs.graph t).present.outline levels (pairs.root t) =
        (pairs.graph u).present.outline levels (pairs.root u) := by
  intro pair t u
  have hclosed : ∀ name m, pairs.get? name = some m → IsClosed name := by
    intro name m hm
    have hall : ∀ name ∈ pairs.entries.keys, IsClosed name := by decide
    exact hall name (List.mem_map_of_mem (OrderedMap.mem_of_get? hm))
  have hmain := alike_of_identity_eq (t := t) (u := u) (derived_pairs (by decide))
    (derived_pairs (by decide)) hclosed
  have hidentity : (pairs.graph t).identity (pairs.root t) = (pairs.graph u).identity (pairs.root u) :=
    hmain.1.2 (by decide)
  exact ⟨by decide, hidentity, (hmain.2 hidentity).2.2.2⟩

end Models

end TypeSchema
