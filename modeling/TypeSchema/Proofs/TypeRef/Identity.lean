import TypeSchema.Proofs.Descriptor.Coherence
import TypeSchema.Proofs.TypeRef.Naming

/-!
# What the identities of type expressions stand for

The identity of a type expression is a text in which the parts are not marked as what they are. It
shows the outermost form all the same (`form_identity`), and hence the kind, unless a defined type is
called like a plain value.

* `Namesake` and `Mistakable` name the exception: a plain value and a defined type of its name, and
  two containers that differ in these.
* `kind_eq_or_namesake` and `resembles_core`: types with one identity **look the same but for the
  exception**.
* `faithful_graph`: so a graph is faithful if what can be mistaken for a container of plain values is
  sound.
-/

namespace TypeSchema

namespace TypeRef

/-- Is the first type a plain value and the second one a defined type that is called like it? That
values may be absent does not matter. -/
def Namesake (t u : TypeRef) : Prop := ∃ p : Primitive, t.core = primitive p ∧ u.core = named p.name

/-- Do two containers differ in that the second one has a type by name where the first one has a
plain value that is called so? -/
inductive Mistakable : TypeRef → TypeRef → Prop where
  /-- Items of lists. -/
  | list {a b : TypeRef} (h : Namesake a b) : Mistakable (list a) (list b)
  /-- Items of sets. -/
  | set {a b : TypeRef} (h : Namesake a b) : Mistakable (set a) (set b)
  /-- Keys of maps. -/
  | key {a b v w : TypeRef} (h : Namesake a b) : Mistakable (map a v) (map b w)
  /-- Values of maps. -/
  | value {a b v w : TypeRef} (h : Namesake v w) : Mistakable (map a v) (map b w)

end TypeRef

namespace Definitions

open TypeRef

variable {defs : Definitions}

/-! ### Descriptors of type expressions -/

variable (defs) in
/-- The identity of a type expression. -/
def identity (t : TypeRef) : String := (defs.node t).identity

variable (defs) in
/-- The signature of a type expression. -/
def signature (t : TypeRef) : Graph.Signature where
  kind := (defs.node t).kind
  eligible := (defs.node t).eligible
  elements := (defs.node t).elements.map fun e =>
    (e.name, (defs.node e.target).kind, defs.identity e.target)

/-- The marks that values may be absent leave the rest of a descriptor as it is. -/
theorem node_core (defs : Definitions) (t : TypeRef) :
    ∃ absent, defs.node t = { defs.node t.core with nullable := absent } := by
  induction t with
  | option inner ih =>
    obtain ⟨absent, h⟩ := ih
    refine ⟨true, ?_⟩
    show { defs.node inner with nullable := true } = _
    rw [h]
    rfl
  | primitive | list | set | map | named | unsupported => exact ⟨_, rfl⟩

/-- An option has the identity of what it may hold. -/
@[simp, grind =] theorem identity_core (t : TypeRef) : defs.identity t.core = defs.identity t := by
  obtain ⟨absent, h⟩ := node_core defs t
  rw [identity, identity, h]

/-- An option is of the kind of what it may hold. -/
@[simp, grind =]
theorem kind_core (t : TypeRef) : (defs.node t.core).kind = (defs.node t).kind := by
  obtain ⟨absent, h⟩ := node_core defs t
  rw [h]

/-- An option has the signature of what it may hold. -/
@[simp, grind =]
theorem signature_core (t : TypeRef) : defs.signature t.core = defs.signature t := by
  obtain ⟨absent, h⟩ := node_core defs t
  rw [signature, signature, h]

/-! ### What an identity shows -/

variable (defs) in
/-- Is every definition kept under its identity? -/
def Keyed : Prop := ∀ name d, defs.get? name = some d → d.identity = name

/-- A definition's descriptor has the definition's identity. -/
@[simp] theorem identity_node (d : Definition) : d.node.identity = d.identity := by
  unfold Definition.node
  split <;> rfl

/-- A defined type has its name as identity, whether there is a definition or not. -/
theorem identity_named (hkeyed : defs.Keyed) (name : String) : defs.identity (named name) = name := by
  show (nodeNamed defs name).identity = name
  unfold nodeNamed
  split
  · next d hd => rw [identity_node, hkeyed name d hd]
  · rfl

/-- The identity of a list is made of that of its items. -/
@[simp] theorem identity_list (item : TypeRef) :
    defs.identity (list item) = Node.listIdentity (defs.identity item) := rfl

/-- The identity of a set is made of that of its items. -/
@[simp] theorem identity_set (item : TypeRef) :
    defs.identity (set item) = Node.setIdentity (defs.identity item) := rfl

/-- The identity of a map is made of those of its keys and values. -/
@[simp] theorem identity_map (key value : TypeRef) :
    defs.identity (map key value) = Node.mapIdentity (defs.identity key) (defs.identity value) :=
  rfl

/-- **The identity of a type expression shows its form.** -/
theorem form_identity (hkeyed : defs.Keyed) {t : TypeRef} (ht : t.WellNamed) :
    Form.ofIdentity (defs.identity t) = t.form := by
  induction t with
  | primitive p => exact if_pos (isName_name p)
  | named name =>
    rw [identity_named hkeyed]
    exact if_pos ht
  | option inner ih => exact ih ht
  | list item =>
    have hname : ¬ IsName (Node.listIdentity (defs.identity item)) :=
      not_isName_of_mem (c := '<') (by simp [Node.listIdentity]) rfl
    simp [Form.ofIdentity, hname, form]
  | set item =>
    have hname : ¬ IsName (Node.setIdentity (defs.identity item)) :=
      not_isName_of_mem (c := '<') (by simp [Node.setIdentity]) rfl
    simp [Form.ofIdentity, hname, form]
  | map key value =>
    have hname : ¬ IsName (Node.mapIdentity (defs.identity key) (defs.identity value)) :=
      not_isName_of_mem (c := '<') (by simp [Node.mapIdentity]) rfl
    simp [Form.ofIdentity, hname, form]
  | unsupported text =>
    -- A text that is a name, or that begins like a container, has a name as its lead.
    have hlead : ∀ name, IsName name → lead text ≠ name := fun name hname h => ht (h ▸ hname)
    have hname : ¬ IsName text := fun h => hlead text h (lead_of_isName h)
    show Form.ofIdentity text = .text
    simp [Form.ofIdentity, hname, hlead "List" (by decide), hlead "Set" (by decide),
      hlead "Map" (by decide)]

/-- Of a map only the outermost brackets count. -/
example : Form.ofIdentity "Map<String, List<Int>>" = .map := by decide

/-! ### Types with one identity -/

/-- **Types with one identity have one kind**, unless one of them is a plain value and the other one
is called like it. -/
theorem kind_eq_or_namesake (hkeyed : defs.Keyed) {t u : TypeRef} (ht : t.WellNamed)
    (hu : u.WellNamed) (h : defs.identity t = defs.identity u) :
    (defs.node t).kind = (defs.node u).kind ∨ t.Namesake u ∨ u.Namesake t := by
  have hform : t.form = u.form := by
    rw [← form_identity hkeyed ht, h, form_identity hkeyed hu]
  have htcore := t.core_of_form
  have hucore := u.core_of_form
  rw [hform] at htcore
  rw [← kind_core t, ← kind_core u]
  rw [← identity_core t, ← identity_core u] at h
  cases hf : u.form <;> simp only [hf] at htcore hucore
  case name =>
    rcases htcore with ⟨p, hp⟩ | ⟨name, hname⟩ <;> rcases hucore with ⟨q, hq⟩ | ⟨other, hother⟩
    · rw [hp, hq] at h
      have hpq : p = q := Primitive.name_injective h
      exact .inl (by rw [hp, hq, hpq])
    · rw [hp, hother, identity_named hkeyed] at h
      exact .inr (.inl ⟨p, hp, hother.trans (congrArg _ h.symm)⟩)
    · rw [hname, hq, identity_named hkeyed] at h
      exact .inr (.inr ⟨q, hq, hname.trans (congrArg _ h)⟩)
    · rw [hname, hother, identity_named hkeyed, identity_named hkeyed] at h
      exact .inl (by rw [hname, hother, h])
  case list | set =>
    obtain ⟨a, ha⟩ := htcore
    obtain ⟨b, hb⟩ := hucore
    exact .inl (by rw [ha, hb]; rfl)
  case map =>
    obtain ⟨a, v, ha⟩ := htcore
    obtain ⟨b, w, hb⟩ := hucore
    exact .inl (by rw [ha, hb]; rfl)
  case text =>
    obtain ⟨a, ha⟩ := htcore
    obtain ⟨b, hb⟩ := hucore
    exact .inl (by rw [ha, hb]; rfl)

/-- A plain value is told by its kind. -/
theorem core_of_isPrimitive {t : TypeRef} {p : Primitive}
    (h : (defs.node t).kind = .primitive p) : t.core = primitive p := by
  induction t with
  | primitive q =>
    cases h
    rfl
  | option inner ih => exact ih h
  | named name =>
    simp only [node, nodeNamed] at h
    split at h
    · next d _ =>
      unfold Definition.node at h
      split at h <;> cases h
    · cases h
  | list | set | map | unsupported => cases h

/-- An object is told by its kind, too: it is a defined type that has a definition. -/
theorem exists_core_of_object {t : TypeRef} (h : (defs.node t).kind = .object) :
    ∃ name d, t.core = named name ∧ defs.get? name = some d := by
  induction t with
  | option inner ih => exact ih h
  | named name =>
    simp only [node, nodeNamed] at h
    split at h
    · next d hd => exact ⟨name, d, rfl, hd⟩
    · cases h
  | primitive | list | set | map | unsupported => cases h

/-- What has a name as the lead of its identity, other than those of the containers, has it as its
identity. -/
theorem identity_eq_of_lead_eq (hkeyed : defs.Keyed) {t : TypeRef} (ht : t.WellNamed) {name : String}
    (hname : IsName name) (hcontainer : name ≠ "List" ∧ name ≠ "Set" ∧ name ≠ "Map")
    (h : lead (defs.identity t) = name) : defs.identity t = name := by
  by_cases hid : IsName (defs.identity t)
  · rw [← lead_of_isName hid, h]
  · have hform := form_identity hkeyed ht
    have hcore := t.core_of_form
    simp only [Form.ofIdentity, hid, h, hcontainer.1, hcontainer.2.1, hcontainer.2.2,
      if_false] at hform
    rw [← hform] at hcore
    obtain ⟨text, htext⟩ := hcore
    have hunnamed : ¬ IsName (lead text) := by
      have hwell := ht.core
      rw [htext] at hwell
      exact hwell
    rw [← identity_core, htext] at h
    exact absurd hname (h ▸ hunnamed)

/-- Texts as keys: a key whose identity begins as that of a text is a text, or it is called so. -/
theorem key_of_lead_eq (hkeyed : defs.Keyed) {a b : TypeRef} (hb : b.WellNamed)
    (ha : (defs.node a).kind = .primitive .string)
    (h : lead (defs.identity a) = lead (defs.identity b)) :
    defs.identity a = defs.identity b ∧
      ((defs.node a).kind = (defs.node b).kind ∨ a.Namesake b) := by
  have hcore : a.core = primitive .string := core_of_isPrimitive ha
  have hida : defs.identity a = "String" := by
    rw [← identity_core, hcore]
    rfl
  have hstring : lead (defs.identity b) = "String" := by
    rw [← h, hida]
    exact lead_of_isName (by decide)
  have hidb : defs.identity b = "String" :=
    identity_eq_of_lead_eq hkeyed hb (by decide) (by decide) hstring
  have hab : defs.identity a = defs.identity b := hida.trans hidb.symm
  have hwell : a.core.WellNamed := by
    rw [hcore]
    trivial
  rw [← identity_core] at hab
  rcases kind_eq_or_namesake hkeyed hwell hb hab with hkind | hname | ⟨p, -, hp⟩
  · exact ⟨hida.trans hidb.symm, .inl (by rw [← kind_core a, hkind])⟩
  · refine ⟨hida.trans hidb.symm, .inr ?_⟩
    obtain ⟨p, hp, hbp⟩ := hname
    rw [hcore] at hp
    exact ⟨p, hcore.trans hp, hbp⟩
  · rw [hcore] at hp
    cases hp

/-! ### Containers -/

/-- The signature of a list shows that of its items. -/
theorem signature_list (a : TypeRef) :
    defs.signature (list a) =
      { kind := .list, eligible := false,
        elements := [("item", (defs.node a).kind, defs.identity a)] } := rfl

/-- The signature of a set shows that of its items. -/
theorem signature_set (a : TypeRef) :
    defs.signature (set a) =
      { kind := .set, eligible := false,
        elements := [("item", (defs.node a).kind, defs.identity a)] } := rfl

/-- The signature of a map shows those of its keys and values. -/
theorem signature_map (a v : TypeRef) :
    defs.signature (map a v) =
      { kind := .map, eligible := false,
        elements := [("key", (defs.node a).kind, defs.identity a),
          ("value", (defs.node v).kind, defs.identity v)] } := rfl

/-- Containers of plain values are sound by themselves: lists and sets of them, and maps from texts
to them. -/
inductive Flat (defs : Definitions) : TypeRef → Prop where
  /-- A list. -/
  | list {a : TypeRef} (h : (defs.node a).kind.isPrimitive = true) : Flat defs (list a)
  /-- A set. -/
  | set {a : TypeRef} (h : (defs.node a).kind.isPrimitive = true) : Flat defs (set a)
  /-- A map. -/
  | map {a v : TypeRef} (hkey : (defs.node a).kind = .primitive .string)
      (h : (defs.node v).kind.isPrimitive = true) : Flat defs (map a v)

/-- The kind of a plain value that a type is the namesake of. -/
theorem isPrimitive_of_namesake {t u : TypeRef} (h : t.Namesake u) :
    (defs.node t).kind.isPrimitive = true := by
  obtain ⟨p, hp, -⟩ := h
  rw [← kind_core, hp]
  rfl

/-- How a type can look beside a well-formed one of the same identity: it has the same signature, or
it is a container that can be mistaken for the other one, or it is a container of plain values. -/
def Resembles (defs : Definitions) (t u : TypeRef) : Prop :=
  defs.signature t = defs.signature u ∨ Mistakable t u ∨ Flat defs u

/-- Containers that differ at most in one part resemble each other if the parts have one identity. -/
theorem resembles_of_part (hkeyed : defs.Keyed) {t u a b : TypeRef} (ha : a.WellNamed)
    (hb : b.WellNamed) (h : defs.identity a = defs.identity b)
    (hsig : (defs.node a).kind = (defs.node b).kind → defs.signature t = defs.signature u)
    (hmistakable : a.Namesake b → Mistakable t u)
    (hflat : (defs.node b).kind.isPrimitive = true → Flat defs u) : Resembles defs t u := by
  rcases kind_eq_or_namesake hkeyed ha hb h with hkind | hab | hba
  · exact .inl (hsig hkind)
  · exact .inr (.inl (hmistakable hab))
  · exact .inr (.inr (hflat (isPrimitive_of_namesake hba)))

/-- Two lists of one identity resemble each other. -/
theorem resembles_list (hkeyed : defs.Keyed) {a b : TypeRef} (ha : a.WellNamed) (hb : b.WellNamed)
    (h : defs.identity (list a) = defs.identity (list b)) : Resembles defs (list a) (list b) := by
  have hitem : defs.identity a = defs.identity b := listIdentity_injective h
  refine resembles_of_part hkeyed ha hb hitem (fun hkind => ?_) .list .list
  rw [signature_list, signature_list, hkind, hitem]

/-- Two sets of one identity resemble each other. -/
theorem resembles_set (hkeyed : defs.Keyed) {a b : TypeRef} (ha : a.WellNamed) (hb : b.WellNamed)
    (h : defs.identity (set a) = defs.identity (set b)) : Resembles defs (set a) (set b) := by
  have hitem : defs.identity a = defs.identity b := setIdentity_injective h
  refine resembles_of_part hkeyed ha hb hitem (fun hkind => ?_) .set .set
  rw [signature_set, signature_set, hkind, hitem]

/-- Of maps, the first one has texts as keys. -/
theorem resembles_map (hkeyed : defs.Keyed) {a v b w : TypeRef} (hv : v.WellNamed)
    (hb : (map b w).WellNamed) (htext : (defs.node a).kind = .primitive .string)
    (h : defs.identity (map a v) = defs.identity (map b w)) :
    Resembles defs (map a v) (map b w) := by
  rw [identity_map, identity_map] at h
  obtain ⟨hkey, hkeykind⟩ := key_of_lead_eq hkeyed hb.1 htext (lead_eq_of_mapIdentity_eq h)
  rw [hkey] at h
  have hvalue : defs.identity v = defs.identity w := value_eq_of_mapIdentity_eq h
  rcases hkeykind with hkeykind | hab
  · refine resembles_of_part hkeyed hv hb.2 hvalue (fun hkind => ?_) .value (.map (hkeykind ▸ htext))
    rw [signature_map, signature_map, hkeykind, hkey, hkind, hvalue]
  · exact .inr (.inl (.key hab))

/-- **A well-formed type and another one of its identity** resemble each other, under the marks that
values may be absent. -/
theorem resembles_core (hkeyed : defs.Keyed) {t u : TypeRef} (ht : t.WellNamed) (hu : u.WellNamed)
    (htplain : ¬ (defs.node t).kind.isPrimitive = true)
    (huplain : ¬ (defs.node u).kind.isPrimitive = true) (hwf : (defs.signature t).WellFormed)
    (h : defs.identity t = defs.identity u) : Resembles defs t.core u.core := by
  have hform : t.form = u.form := by
    rw [← form_identity hkeyed ht, h, form_identity hkeyed hu]
  have htcore := t.core_of_form
  have hucore := u.core_of_form
  have htnamed := ht.core
  have hunamed := hu.core
  rw [hform] at htcore
  rw [← kind_core] at htplain huplain
  rw [← signature_core] at hwf
  rw [← identity_core t, ← identity_core u] at h
  cases hf : u.form <;> simp only [hf] at htcore hucore
  case name =>
    rcases htcore with ⟨p, hp⟩ | ⟨name, hname⟩
    · exact absurd (by rw [hp]; rfl) htplain
    · rcases hucore with ⟨q, hq⟩ | ⟨other, hother⟩
      · exact absurd (by rw [hq]; rfl) huplain
      · rw [hname, hother, identity_named hkeyed, identity_named hkeyed] at h
        left
        rw [hname, hother, h]
  case list =>
    obtain ⟨a, ha⟩ := htcore
    obtain ⟨b, hb⟩ := hucore
    rw [ha] at h htnamed ⊢
    rw [hb] at h hunamed ⊢
    exact resembles_list hkeyed htnamed hunamed h
  case set =>
    obtain ⟨a, ha⟩ := htcore
    obtain ⟨b, hb⟩ := hucore
    rw [ha] at h htnamed ⊢
    rw [hb] at h hunamed ⊢
    exact resembles_set hkeyed htnamed hunamed h
  case map =>
    obtain ⟨a, v, ha⟩ := htcore
    obtain ⟨b, w, hb⟩ := hucore
    rw [ha] at h htnamed hwf ⊢
    rw [hb] at h hunamed ⊢
    exact resembles_map hkeyed htnamed.2 hunamed hwf h
  case text =>
    obtain ⟨text, htext⟩ := htcore
    rw [htext] at hwf
    exact hwf.elim

/-! ### The graph of a list of roots -/

variable {roots : List TypeRef}

/-- In the graph a type expression looks as it does by itself. -/
theorem signature_graph (r : {t : TypeRef // t ∈ typeRefs defs roots}) :
    (defs.graph roots).signature r = defs.signature r.1 := by
  have helements : (defs.graph roots).signature r =
      { kind := (defs.node r.1).kind, eligible := (defs.node r.1).eligible,
        elements := (defs.node r.1).elements.attach.map fun e =>
          (e.1.name, (defs.node e.1.target).kind, defs.identity e.1.target) } := by
    simp [Graph.signature, graph, Graph.ofClosed, Graph.identity, identity, Function.comp_def]
  rw [helements, List.attach_map_val (f := fun e : Element TypeRef =>
    (e.name, (defs.node e.target).kind, defs.identity e.target))]
  rfl

/-- A container of plain values is well formed. -/
theorem Flat.wellFormed {t : TypeRef} (h : Flat defs t) : (defs.signature t).WellFormed := by
  cases h with
  | list | set => rfl
  | map hkey => exact hkey

/-- The parts of a container of plain values are plain. -/
theorem Flat.isPrimitive_of_mem_parts {t : TypeRef} (h : Flat defs t) :
    ∀ part ∈ (defs.signature t).parts, part.1.isPrimitive = true := by
  cases h with
  | list h | set h => simpa [Graph.Signature.parts, signature_list, signature_set] using h
  | map _ h => simpa [Graph.Signature.parts, signature_map] using h

/-- A container of plain values is sound. -/
theorem Flat.sound {r : {t : TypeRef // t ∈ typeRefs defs roots}} (h : Flat defs r.1.core) :
    (defs.graph roots).Sound r := by
  have hsig : (defs.graph roots).signature r = defs.signature r.1.core := by
    rw [signature_graph, signature_core]
  have hwf : (defs.graph roots).WellFormed r := by
    rw [Graph.wellFormed_iff_signature, hsig]
    exact h.wellFormed
  refine Graph.sound_of_parts hwf fun s hs => Graph.sound_of_plain ?_
  have hlabel : (defs.graph roots).label s ∈ (defs.signature r.1.core).parts := by
    rw [← hsig, ← Graph.map_label_parts]
    exact List.mem_map_of_mem hs
  exact h.isPrimitive_of_mem_parts _ hlabel

/-- **A graph of well-named types is faithful**, if what is under the identity of a container of plain
values, and is none, is sound. -/
theorem faithful_graph (hkeyed : defs.Keyed) (hnamed : ∀ t ∈ typeRefs defs roots, t.WellNamed)
    {starts : List {t : TypeRef // t ∈ typeRefs defs roots}}
    (hclear : ∀ r s, (defs.graph roots).ReachedFrom starts r →
      (defs.graph roots).ReachedFrom starts s →
      (defs.graph roots).identity r = (defs.graph roots).identity s →
      Mistakable r.1.core s.1.core → (defs.graph roots).Sound s) :
    (defs.graph roots).Faithful starts := by
  intro r s hr hs hrplain hsplain hid hwf
  rw [Graph.wellFormed_iff_signature, signature_graph] at hwf
  rw [signature_graph, signature_graph, ← signature_core r.1, ← signature_core s.1]
  rcases resembles_core hkeyed (hnamed r.1 r.2) (hnamed s.1 s.2) hrplain hsplain hwf hid
    with hsig | hmistakable | hflat
  · exact .inl hsig
  · exact .inr (hclear r s hr hs hid hmistakable)
  · exact .inr hflat.sound

end Definitions

end TypeSchema
