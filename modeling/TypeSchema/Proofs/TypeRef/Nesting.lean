import TypeSchema.Proofs.Model.Standard
import TypeSchema.Proofs.TypeRef.Qualified

/-!
# Identities of nested types

The identity of a container holds those of its parts, with brackets around them and, in a map, a comma
in between. The parts may themselves hold brackets and commas. They can be told apart all the same,
because a comma outside of all brackets is never part of a key.

* `nesting` counts the brackets that are open, and `IsClosed` holds of the texts in which brackets
  match and commas stand inside of brackets. `key_eq_of_mapIdentity_eq`: the identity of a map **shows
  where its key ends**.
* `TypeRef.present` is a type expression without any of the marks that values may be absent.
  `identity_eq_iff`: qualified types of one identity are **one type** but for these marks, however
  deeply they are nested.
* `node_present` and `outline_present`: such types have the same descriptor, but for absence, down to
  any level.
-/

namespace TypeSchema

/-! ### Brackets -/

/-- The number of open brackets after a character, unless it closes a bracket where none is open or is
a comma outside of all brackets. -/
def nestingStep (depth : Nat) (c : Char) : Option Nat :=
  if c = '<' then some (depth + 1)
  else if c = '>' then if depth = 0 then none else some (depth - 1)
  else if c = ',' ∧ depth = 0 then none
  else some depth

/-- The number of open brackets after some characters. -/
def nesting (depth : Nat) (text : List Char) : Option Nat := text.foldlM nestingStep depth

/-- Is every bracket of the text closed, and does every comma stand inside of brackets? -/
def IsClosed (text : String) : Prop := nesting 0 text.toList = some 0

instance : DecidablePred IsClosed := fun _ => inferInstanceAs (Decidable (_ = _))

section

variable {depth after : Nat} {text : List Char}

/-- The nesting after two texts in turn. -/
@[simp] theorem nesting_append (depth : Nat) (text rest : List Char) :
    nesting depth (text ++ rest) = (nesting depth text).bind fun after => nesting after rest :=
  List.foldlM_append

/-- A character that may stand somewhere may stand inside of more brackets. -/
theorem nestingStep_add {c : Char} (h : nestingStep depth c = some after) (more : Nat) :
    nestingStep (depth + more) c = some (after + more) := by
  unfold nestingStep at h ⊢
  by_cases hopen : c = '<'
  · rw [if_pos hopen, Option.some.injEq] at h ⊢
    omega
  by_cases hclose : c = '>'
  · rw [if_neg hopen, if_pos hclose] at h ⊢
    split at h
    · cases h
    · rw [if_neg (by omega), Option.some.injEq]
      rw [Option.some.injEq] at h
      omega
  · rw [if_neg hopen, if_neg hclose] at h ⊢
    split at h
    · cases h
    · next hcomma =>
      rw [if_neg fun hmore => hcomma ⟨hmore.1, by omega⟩, Option.some.inj h]

/-- A text that may stand somewhere may stand inside of more brackets. -/
theorem nesting_add (h : nesting depth text = some after) (more : Nat) :
    nesting (depth + more) text = some (after + more) := by
  induction text generalizing depth with
  | nil => exact congrArg (some <| · + more) (Option.some.inj h)
  | cons c rest ih =>
    rw [nesting, List.foldlM_cons] at h ⊢
    obtain ⟨next, hstep, hrest⟩ := Option.bind_eq_some_iff.1 h
    rw [nestingStep_add hstep more]
    exact ih hrest

/-- A text that closes what it opens does so at any depth. -/
theorem IsClosed.nesting_eq {text : String} (h : IsClosed text) (depth : Nat) :
    nesting depth text.toList = some depth := by
  have hadd := nesting_add h depth
  rwa [Nat.zero_add] at hadd

end

/-! ### Identities of containers -/

/-- A text is closed if it opens a bracket, goes on with a closed text and closes the bracket. -/
theorem isClosed_enclose {start inner : String} (hstart : nesting 0 start.toList = some 1)
    (hinner : IsClosed inner) : IsClosed (start ++ inner ++ ">") := by
  rw [IsClosed, String.toList_append, String.toList_append, nesting_append, nesting_append, hstart]
  show ((nesting 1 inner.toList).bind fun after => nesting after ">".toList) = some 0
  rw [hinner.nesting_eq 1]
  rfl

/-- The identity of a list closes what it opens, if that of its items does. -/
theorem isClosed_listIdentity {item : String} (h : IsClosed item) :
    IsClosed (Node.listIdentity item) := isClosed_enclose (by decide) h

/-- The identity of a set closes what it opens, if that of its items does. -/
theorem isClosed_setIdentity {item : String} (h : IsClosed item) :
    IsClosed (Node.setIdentity item) := isClosed_enclose (by decide) h

/-- The identity of a map closes what it opens, if those of its keys and values do. -/
theorem isClosed_mapIdentity {key value : String} (hkey : IsClosed key) (hvalue : IsClosed value) :
    IsClosed (Node.mapIdentity key value) := by
  refine isClosed_enclose ?_ hvalue
  rw [String.toList_append, String.toList_append, nesting_append, nesting_append]
  show ((nesting 1 key.toList).bind fun after => nesting after ", ".toList) = some 1
  rw [hkey.nesting_eq 1]
  rfl

/-- A closed text ends where a comma follows that is outside of its brackets. -/
theorem eq_of_append_comma {key key' rest rest' : List Char} (hkey : nesting 0 key = some 0)
    (hkey' : nesting 0 key' = some 0) (h : key ++ ',' :: rest = key' ++ ',' :: rest') :
    key = key' := by
  -- If one of the keys went on where the other one ends, it would go on with the comma.
  have hshorter : ∀ {key rest more : List Char}, nesting 0 key = some 0 →
      nesting 0 (key ++ more) = some 0 → (∃ tail, more ++ tail = ',' :: rest) → more = [] := by
    rintro key rest more hkey hmore ⟨tail, htail⟩
    cases more with
    | nil => rfl
    | cons c more =>
      rw [List.cons_append] at htail
      rw [(List.cons.inj htail).1, nesting_append, hkey] at hmore
      cases hmore
  rcases List.append_eq_append_iff.1 h with ⟨more, rfl, hmore⟩ | ⟨more, rfl, hmore⟩
  · rw [hshorter hkey hkey' ⟨_, hmore.symm⟩, List.append_nil]
  · rw [hshorter hkey' hkey ⟨_, hmore.symm⟩, List.append_nil]

/-- **Maps with one identity have keys with one identity**, if these are closed. -/
theorem key_eq_of_mapIdentity_eq {key value key' value' : String} (hkey : IsClosed key)
    (hkey' : IsClosed key') (h : Node.mapIdentity key value = Node.mapIdentity key' value') :
    key = key' := by
  have hchars := congrArg String.toList h
  simp only [Node.mapIdentity, String.toList_append, List.append_assoc] at hchars
  exact String.toList_injective
    (eq_of_append_comma hkey hkey' (List.append_cancel_left hchars))

/-- Of keys with a comma outside of all brackets this would not be so. -/
example : Node.mapIdentity "a::b, c::d" "e::f" = Node.mapIdentity "a::b" "c::d, e::f" := by decide

/-- The names of plain values open nothing. -/
@[simp] theorem isClosed_name (p : Primitive) : IsClosed p.name := by
  cases p <;> decide

/-! ### Types without absence -/

namespace TypeRef

/-- The type expression without the marks that values may be absent, wherever they are. -/
def present : TypeRef → TypeRef
  | option inner => present inner
  | list item => list item.present
  | set item => set item.present
  | map key value => map key.present value.present
  | t => t

/-- Without options, a type and what it may hold are one. -/
@[simp] theorem present_core (t : TypeRef) : t.core.present = t.present := by
  induction t with
  | option inner ih => exact ih
  | primitive | list | set | map | named | unsupported => rfl

/-- Options can be taken away but once. -/
@[simp] theorem present_present (t : TypeRef) : t.present.present = t.present := by
  induction t with
  | option inner ih => exact ih
  | list item ih => exact congrArg list ih
  | set item ih => exact congrArg set ih
  | map key value ihk ihv => exact congrArg₂ map ihk ihv
  | primitive | named | unsupported => rfl

/-- Are the names in the type expression qualified and closed, and is everything in it understood? -/
def Legible : TypeRef → Prop
  | primitive _ => True
  | option inner => Legible inner
  | list item => Legible item
  | set item => Legible item
  | map key value => Legible key ∧ Legible value
  | named name => IsQualified name ∧ IsClosed name
  | unsupported _ => False

variable {t u : TypeRef}

/-- A legible type is qualified. -/
theorem Legible.qualified (h : t.Legible) : t.Qualified := by
  induction t with
  | primitive => trivial
  | option inner ih | list item ih | set item ih => exact ih h
  | map key value ihk ihv => exact ⟨ihk h.1, ihv h.2⟩
  | named name => exact h.1
  | unsupported => exact h

/-- What a legible option may hold is legible. -/
theorem Legible.core (h : t.Legible) : t.core.Legible := by
  induction t with
  | option inner ih => exact ih h
  | primitive | list | set | map | named | unsupported => exact h

end TypeRef

/-- The descriptor of a type, but for whether values may be absent. -/
def Node.present {Ref : Type} (node : Node Ref) : Node Ref := { node with nullable := false }

/-- The graph in which no values are absent. -/
def Graph.present {Ref : Type} (g : Graph Ref) : Graph Ref :=
  { g with node := fun r => (g.node r).present }

namespace Definitions

open TypeRef

variable {defs : Definitions} {t u : TypeRef}

/-- Options leave no mark on identities. -/
@[simp] theorem identity_present (t : TypeRef) : defs.identity t.present = defs.identity t := by
  induction t with
  | option inner ih => exact ih
  | list item ih => exact congrArg Node.listIdentity ih
  | set item ih => exact congrArg Node.setIdentity ih
  | map key value ihk ihv => exact congrArg₂ Node.mapIdentity ihk ihv
  | primitive | named | unsupported => rfl

/-- The identity of a legible type is closed. -/
theorem isClosed_identity (hkeyed : defs.Keyed) (ht : t.Legible) : IsClosed (defs.identity t) := by
  induction t with
  | primitive p => exact isClosed_name p
  | option inner ih => exact ih ht
  | list item ih => exact isClosed_listIdentity (ih ht)
  | set item ih => exact isClosed_setIdentity (ih ht)
  | map key value ihk ihv => exact isClosed_mapIdentity (ihk ht.1) (ihv ht.2)
  | named name =>
    rw [identity_named hkeyed]
    exact ht.2
  | unsupported => exact ht.elim

/-- Under the marks of a type there is what the form of any type of its identity says. -/
theorem core_of_identity_eq (hkeyed : defs.Keyed) (ht : t.Qualified) (hu : u.Qualified)
    (h : defs.identity t = defs.identity u) :
    match t.qualifiedForm with
    | .name => ∃ p, u.core = primitive p
    | .list => ∃ item, u.core = list item
    | .set => ∃ item, u.core = set item
    | .map => ∃ key value, u.core = map key value
    | .text => ∃ name, u.core = named name := by
  have hform : t.qualifiedForm = u.qualifiedForm := by
    rw [← qualifiedForm_identity hkeyed ht, h, qualifiedForm_identity hkeyed hu]
  rw [hform]
  exact hu.core_of_qualifiedForm

/-- **Legible types with one identity are one type**, but for the marks that values may be absent. -/
theorem present_eq_of_identity_eq (hkeyed : defs.Keyed) (ht : t.Legible) (hu : u.Legible)
    (h : defs.identity t = defs.identity u) : t.present = u.present := by
  -- The induction is on the first type. The marks of the second one are taken off at each step.
  induction t generalizing u with
  | option inner ih => exact ih ht hu h
  | primitive p =>
    obtain ⟨q, hq⟩ := core_of_identity_eq hkeyed ht.qualified hu.qualified h
    rw [← identity_core u, hq] at h
    rw [← present_core u, hq, Primitive.name_injective h]
  | list a ih =>
    obtain ⟨b, hb⟩ := core_of_identity_eq hkeyed ht.qualified hu.qualified h
    have hlegible := hu.core
    rw [hb] at hlegible
    rw [← identity_core u, hb] at h
    rw [← present_core u, hb]
    exact congrArg list (ih ht hlegible (listIdentity_injective h))
  | set a ih =>
    obtain ⟨b, hb⟩ := core_of_identity_eq hkeyed ht.qualified hu.qualified h
    have hlegible := hu.core
    rw [hb] at hlegible
    rw [← identity_core u, hb] at h
    rw [← present_core u, hb]
    exact congrArg TypeRef.set (ih ht hlegible (setIdentity_injective h))
  | map a v ihk ihv =>
    obtain ⟨b, w, hb⟩ := core_of_identity_eq hkeyed ht.qualified hu.qualified h
    have hlegible := hu.core
    rw [hb] at hlegible
    rw [← identity_core u, hb, identity_map, identity_map] at h
    have hkey : defs.identity a = defs.identity b :=
      key_eq_of_mapIdentity_eq (isClosed_identity hkeyed ht.1) (isClosed_identity hkeyed hlegible.1) h
    rw [hkey] at h
    have hvalue : defs.identity v = defs.identity w := value_eq_of_mapIdentity_eq h
    rw [← present_core u, hb]
    exact congrArg₂ map (ihk ht.1 hlegible.1 hkey) (ihv ht.2 hlegible.2 hvalue)
  | named name =>
    obtain ⟨other, hother⟩ := core_of_identity_eq hkeyed ht.qualified hu.qualified h
    rw [← identity_core u, hother, identity_named hkeyed, identity_named hkeyed] at h
    rw [← present_core u, hother, h]
  | unsupported => exact ht.elim

/-- **Identities tell legible types apart**, but for the marks that values may be absent, and nothing
else. -/
theorem identity_eq_iff (hkeyed : defs.Keyed) (ht : t.Legible) (hu : u.Legible) :
    defs.identity t = defs.identity u ↔ t.present = u.present := by
  refine ⟨present_eq_of_identity_eq hkeyed ht hu, fun h => ?_⟩
  rw [← identity_present t, h, identity_present]

/-! ### Descriptors without absence -/

/-- The descriptor of a type expression, but for absence and for the marks in what its elements refer
to, is that of the type expression without marks. -/
theorem node_present (t : TypeRef) :
    (defs.node t.present).present.retarget TypeRef.present =
      (defs.node t).present.retarget TypeRef.present := by
  induction t with
  | option inner ih => exact ih
  | list item =>
    show (Node.list item.present (defs.identity item.present)).present.retarget TypeRef.present =
      (Node.list item (defs.identity item)).present.retarget TypeRef.present
    rw [identity_present]
    simp [Node.present, Node.retarget, Node.list]
  | set item =>
    show (Node.set item.present (defs.identity item.present)).present.retarget TypeRef.present =
      (Node.set item (defs.identity item)).present.retarget TypeRef.present
    rw [identity_present]
    simp [Node.present, Node.retarget, Node.set]
  | map key value =>
    show (Node.map key.present (defs.identity key.present) value.present
        (defs.identity value.present)).present.retarget TypeRef.present =
      (Node.map key (defs.identity key) value (defs.identity value)).present.retarget TypeRef.present
    rw [identity_present, identity_present]
    simp [Node.present, Node.retarget, Node.map]
  | primitive | named | unsupported => rfl

/-- Types that are one but for absence have one descriptor but for absence. -/
theorem retarget_node_eq (h : t.present = u.present) :
    (defs.node t).present.retarget TypeRef.present =
      (defs.node u).present.retarget TypeRef.present := by
  rw [← node_present t, h, node_present]

/-- **Down to any level** they look the same, absence apart. -/
theorem outline_present (h : t.present = u.present) (levels : Nat) :
    Outline.of (fun r => (defs.node r).present) levels t =
      Outline.of (fun r => (defs.node r).present) levels u := by
  -- What the elements of a defined type refer to has marks of its own, so that descriptors agree only
  -- after these are taken off, too.
  let bare : TypeRef → Node TypeRef := fun r => (defs.node r).present.retarget TypeRef.present
  have hmarks : ∀ r : TypeRef,
      Outline.of bare levels r.present = Outline.of (fun r => (defs.node r).present) levels r :=
    fun r => Outline.of_map (P := fun _ => True) (fun r _ => node_present r)
      (fun _ _ _ _ => trivial) levels trivial
  rw [← hmarks, h, hmarks]

end Definitions

end TypeSchema
