import TypeSchema.Model.Generation
import TypeSchema.Proofs.Descriptor.Morphism

/-!
# Standard types

A standard type is built from plain values, containers and wrappers alone. It says of itself what its
descriptor is: each container makes it from what the type in it says. Where types are known by name
only, a descriptor is made from the name and the number of arguments instead.

* `TypeExpr.descriptor` and `TypeExpr.outline` are what a type says of itself.
* `Outline.of_map`: an outline stays what it is when every reference is replaced, if each keeps its
  descriptor. In a graph that is cut out, nothing else is seen (`Outline.of_ofClosed`).
* `node_typeRef` is the agreement of descriptors at one level, and `outline_graph` carries it **down
  to any level**, in any graph.
-/

namespace TypeSchema

open Model

/-! ### Outlines without a graph -/

/-- The outline of a type whose descriptor and whose parts' descriptors are given by a function. -/
def Outline.of {Ref : Type} (node : Ref → Node Ref) : (levels : Nat) → Ref → Outline
  | 0, r => .mk (node r).forget none
  | levels + 1, r =>
    .mk (node r).forget (some ((node r).elements.map fun e => Outline.of node levels e.target))

/-- Other references are forgotten like those before. -/
@[simp] theorem Node.forget_retarget {Ref Ref' : Type} (f : Ref → Ref') (node : Node Ref) :
    (node.retarget f).forget = node.forget := by
  simp [forget, retarget, Function.comp_def]

namespace Outline

variable {Ref Ref' : Type}

/-- Outlines in a graph are outlines over its descriptors. -/
theorem of_graph (g : Graph Ref) (levels : Nat) (r : Ref) : g.outline levels r = of g.node levels r := by
  induction levels generalizing r with
  | zero => rfl
  | succ levels ih => simp [Graph.outline, of, Graph.children, Function.comp_def, ih]

/-- References that keep their descriptors on the way to others keep their outlines. It is enough
that those of some kind do, if no other kind is met below. -/
theorem of_map {node : Ref → Node Ref} {node' : Ref' → Node Ref'} {f : Ref → Ref'}
    {P : Ref → Prop} (hnode : ∀ r, P r → node' (f r) = (node r).retarget f)
    (hclosed : ∀ r, P r → ∀ e ∈ (node r).elements, P e.target) (levels : Nat) {r : Ref}
    (hr : P r) : of node' levels (f r) = of node levels r := by
  induction levels generalizing r with
  | zero => rw [of, of, hnode r hr, Node.forget_retarget]
  | succ levels ih =>
    have hparts : ((node r).retarget f).elements.map (fun e => of node' levels e.target) =
        (node r).elements.map fun e => of node levels e.target := by
      rw [Node.retarget, List.map_map]
      exact List.map_congr_left fun e he => ih (hclosed r hr e he)
    rw [of, of, hnode r hr, Node.forget_retarget, hparts]

/-- A graph that is cut out of descriptors given for all of a type shows what they show. -/
theorem of_ofClosed {node : Ref → Node Ref} {refs : List Ref}
    (closed : ∀ r ∈ refs, ∀ e ∈ (node r).elements, e.target ∈ refs) (levels : Nat)
    (r : {r : Ref // r ∈ refs}) :
    (Graph.ofClosed node refs closed).outline levels r = of node levels r.1 := by
  have hcut : ∀ s, True →
      node s.1 = ((Graph.ofClosed node refs closed).node s).retarget Subtype.val := fun s _ => by
    simp [Graph.ofClosed, Node.retarget, Function.comp_def]
  rw [of_graph]
  exact (of_map hcut (fun _ _ _ _ => trivial) levels trivial).symm

end Outline

/-! ### What a type says of itself -/

namespace TypeExpr

/-- The descriptor that a type gives itself, with those of its parts down to so many levels. -/
def outline (levels : Nat) (u : TypeExpr) : Outline := Outline.of descriptor levels u

/-- Is the type built from plain values, containers and wrappers alone? -/
def IsStandard : TypeExpr → Prop
  | scalar _ => True
  | container _ inner => inner.IsStandard
  | map _ key value => key.IsStandard ∧ value.IsStandard
  | model _ => False

/-- The types of the elements of a standard type are standard. -/
theorem IsStandard.of_mem_elements {u : TypeExpr} (h : u.IsStandard) :
    ∀ e ∈ u.descriptor.elements, e.target.IsStandard := by
  induction u with
  | scalar => exact fun e he => absurd he List.not_mem_nil
  | container c inner ih =>
    cases c with
    | option | box | arc | rc => exact ih h
    | vec | vecDeque | slice | hashSet | treeSet | indexSet =>
      intro e he
      rw [List.mem_singleton.1 he]
      exact h
  | map _ key value =>
    intro e he
    rcases List.mem_cons.1 he with rfl | he
    · exact h.1
    · rw [List.mem_singleton.1 he]
      exact h.2
  | model => exact h.elim

end TypeExpr

/-! ### Agreement -/

namespace Definitions

open TypeExpr

variable (defs : Definitions) {roots : List TypeRef}

/-- **A standard type is described as it describes itself**, whatever is defined. -/
theorem node_typeRef {u : TypeExpr} (h : u.IsStandard) :
    defs.node u.typeRef = u.descriptor.retarget TypeExpr.typeRef := by
  induction u with
  | scalar => rfl
  | container c inner ih =>
    have hinner := ih h
    cases c with
    | option =>
      show { defs.node inner.typeRef with nullable := true } = _
      rw [hinner]
      rfl
    | box | arc | rc => exact hinner
    | vec | vecDeque | slice =>
      show Node.list inner.typeRef (defs.node inner.typeRef).identity = _
      rw [hinner]
      rfl
    | hashSet | treeSet | indexSet =>
      show Node.set inner.typeRef (defs.node inner.typeRef).identity = _
      rw [hinner]
      rfl
  | map _ key value ihk ihv =>
    show Node.map key.typeRef (defs.node key.typeRef).identity value.typeRef
      (defs.node value.typeRef).identity = _
    rw [ihk h.1, ihv h.2]
    rfl
  | model => exact h.elim

/-- **Down to any level** a standard type is described as it describes itself, wherever it stands. -/
theorem outline_graph (levels : Nat) {u : TypeExpr} (h : u.IsStandard)
    {r : {t : TypeRef // t ∈ typeRefs defs roots}} (hr : r.1 = u.typeRef) :
    (defs.graph roots).outline levels r = u.outline levels := by
  calc (defs.graph roots).outline levels r
      = Outline.of defs.node levels r.1 := Outline.of_ofClosed (defs.closed roots) levels r
    _ = Outline.of defs.node levels u.typeRef := by rw [hr]
    _ = u.outline levels :=
        Outline.of_map (fun w hw => defs.node_typeRef hw) (fun w hw => hw.of_mem_elements) levels h

end Definitions

end TypeSchema
