import Mathlib
import TypeSchema.Validation

/-!
# Sound types and coherent graphs

What validation is about, said without a walk.

* `Reaches` is the way from a type to the types below it: items of lists and sets, values of maps
  and fields of objects. The key of a map is looked at and not walked.
* `WellFormed` says that a descriptor is right by itself, and `Sound` that everything below it is. The
  check of a descriptor by itself decides the first (`steps_eq_ok_iff`).
* `Coherent` says that an identity stands for one type: whatever is reached under it looks the same,
  nullability aside. `Faithful` asks for less: what looks different must at least be sound.
* `sound_of_settles`: in a faithful family, a set of identities that **supports itself** (each is the
  identity of a well-formed type whose parts are plain or in the set) holds identities of sound types
  only. It does not matter in which order the set came about, nor which cycles run through it.
-/

namespace TypeSchema.Graph

variable {Ref : Type} (g : Graph Ref)

/-! ### The types below a type -/

/-- Is the type a plain value? -/
abbrev Plain (r : Ref) : Prop := (g.node r).kind.isPrimitive = true

/-- The types one step below a type: the item of a list or set, the value of a map, the fields of an
object. A container with a wrong number of elements has no parts. -/
def parts (r : Ref) : List Ref :=
  match (g.node r).kind with
  | .list | .set => if (g.node r).elements.length = 1 then g.children r else []
  | .map => if (g.node r).elements.length = 2 then (g.children r).drop 1 else []
  | .object => g.children r
  | .primitive _ | .enumeration _ | .polymorphic | .contextual => []

/-- The way from a type to one below it, of any number of steps. -/
def Reaches : Ref → Ref → Prop := Relation.ReflTransGen fun r s => s ∈ g.parts r

/-- Is the type below one of the roots? -/
def ReachedFrom (roots : List Ref) (r : Ref) : Prop := ∃ root ∈ roots, g.Reaches root r

variable {g}

/-- A type is below itself. -/
@[simp] theorem Reaches.refl (r : Ref) : g.Reaches r r := Relation.ReflTransGen.refl

/-- What is below a type below another is below that one. -/
@[grind →] theorem Reaches.trans {r s t : Ref} (hrs : g.Reaches r s) (hst : g.Reaches s t) :
    g.Reaches r t := Relation.ReflTransGen.trans hrs hst

/-- The parts of a type are below it. -/
theorem Reaches.of_mem_parts {r s : Ref} (h : s ∈ g.parts r) : g.Reaches r s :=
  Relation.ReflTransGen.single h

/-- A way that starts at a part of a type starts at the type. -/
theorem Reaches.head {r s t : Ref} (h : s ∈ g.parts r) (hst : g.Reaches s t) : g.Reaches r t :=
  Relation.ReflTransGen.head h hst

/-- Each root is reached from the roots. -/
theorem reachedFrom_of_mem {roots : List Ref} {r : Ref} (h : r ∈ roots) :
    g.ReachedFrom roots r := ⟨r, h, Reaches.refl r⟩

/-- What is below a reached type is reached. -/
@[grind →] theorem ReachedFrom.trans {roots : List Ref} {r s : Ref} (h : g.ReachedFrom roots r)
    (hrs : g.Reaches r s) : g.ReachedFrom roots s := by
  obtain ⟨root, hroot, hr⟩ := h
  exact ⟨root, hroot, hr.trans hrs⟩

/-- From more roots no less is reached. -/
theorem ReachedFrom.mono {roots more : List Ref} {r : Ref} (hsub : roots ⊆ more)
    (h : g.ReachedFrom roots r) : g.ReachedFrom more r := by
  obtain ⟨root, hroot, hr⟩ := h
  exact ⟨root, hsub hroot, hr⟩

/-- A plain type has no parts. -/
theorem parts_eq_nil_of_plain {r : Ref} (h : g.Plain r) : g.parts r = [] := by
  unfold parts
  unfold Plain at h
  split <;> simp_all [Kind.isPrimitive]

/-- A list or set with one item leads to the item. -/
theorem parts_of_item {r : Ref} {item : Element Ref}
    (hkind : (g.node r).kind = .list ∨ (g.node r).kind = .set)
    (helements : (g.node r).elements = [item]) : g.parts r = [item.target] := by
  rcases hkind with hkind | hkind <;> simp [parts, children, hkind, helements]

/-- A map with a key and a value leads to the value. -/
theorem parts_of_value {r : Ref} {key value : Element Ref} (hkind : (g.node r).kind = .map)
    (helements : (g.node r).elements = [key, value]) : g.parts r = [value.target] := by
  simp [parts, children, hkind, helements]

/-- An object leads to its fields. -/
theorem parts_of_object {r : Ref} (hkind : (g.node r).kind = .object) :
    g.parts r = g.children r := by
  simp [parts, hkind]

variable (g)

/-! ### Well-formed and sound types -/

/-- Is the descriptor right by itself? Lists and sets have one element, maps have two and text keys,
objects and enumerations have asked for a schema, and something is known of the type. -/
def WellFormed (r : Ref) : Prop :=
  match (g.node r).kind with
  | .primitive _ | .polymorphic => True
  | .list | .set => (g.node r).elements.length = 1
  | .map =>
    match (g.node r).elements with
    | [key, _] => (g.node key.target).kind = .primitive .string
    | _ => False
  | .enumeration _ | .object => (g.node r).eligible = true
  | .contextual => False

instance : DecidablePred g.WellFormed := fun r => by
  unfold WellFormed
  split
  case h_5 => split <;> infer_instance
  all_goals infer_instance

/-- Is everything below the type right by itself? -/
def Sound (r : Ref) : Prop := ∀ s, g.Reaches r s → g.WellFormed s

variable {g}

/-- A sound type is well formed. -/
@[grind →]
theorem Sound.wellFormed {r : Ref} (h : g.Sound r) : g.WellFormed r := h r (Reaches.refl r)

/-- What is below a sound type is sound. -/
@[grind →] theorem Sound.of_reaches {r s : Ref} (h : g.Sound r) (hrs : g.Reaches r s) : g.Sound s :=
  fun t hst => h t (hrs.trans hst)

/-- The parts of a sound type are sound. -/
theorem Sound.of_mem_parts {r s : Ref} (h : g.Sound r) (hs : s ∈ g.parts r) : g.Sound s :=
  h.of_reaches (Reaches.of_mem_parts hs)

/-- What is well formed, and leads only to what is well formed, is sound. -/
theorem sound_of_closed {S : Ref → Prop}
    (hclosed : ∀ r, S r → g.WellFormed r ∧ ∀ s ∈ g.parts r, S s) {r : Ref} (hr : S r) :
    g.Sound r := by
  intro s hrs
  have hs : S s := by
    induction hrs with
    | refl => exact hr
    | @tail s t _ ht ih => exact (hclosed s ih).2 t ht
  exact (hclosed s hs).1

/-- A well-formed type with sound parts is sound. -/
theorem sound_of_parts {r : Ref} (hwf : g.WellFormed r) (hparts : ∀ s ∈ g.parts r, g.Sound s) :
    g.Sound r := by
  intro s hrs
  rcases Relation.ReflTransGen.cases_head hrs with rfl | ⟨t, ht, hts⟩
  · exact hwf
  · exact hparts t ht s hts

/-- A plain type is well formed. -/
theorem wellFormed_of_plain {r : Ref} (h : g.Plain r) : g.WellFormed r := by
  unfold WellFormed
  unfold Plain at h
  split <;> simp_all [Kind.isPrimitive]

/-- A plain type is sound: there is nothing below it. -/
theorem sound_of_plain {r : Ref} (h : g.Plain r) : g.Sound r := by
  refine sound_of_parts (wellFormed_of_plain h) fun s hs => ?_
  rw [parts_eq_nil_of_plain h] at hs
  exact absurd hs List.not_mem_nil

/-! ### The steps down from a type -/

/-- The steps down from a type: its parts, each with the text that names the step. The step to a field
is named after the object and the field, the step into a container after the container. -/
def branches (g : Graph Ref) (r : Ref) : List (Step Ref) :=
  match (g.node r).kind with
  | .object => (g.node r).elements.map fun field =>
      (g.identity r ++ "." ++ field.name, field.target)
  | _ => (g.parts r).map fun part => (g.identity r, part)

/-- The branches of a type lead to its parts. -/
@[simp] theorem map_snd_branches (r : Ref) : (g.branches r).map Prod.snd = g.parts r := by
  unfold branches
  split
  · next hkind =>
    rw [parts_of_object hkind, children, List.map_map]
    rfl
  · rw [List.map_map]
    exact List.map_id _

/-- The check of a well-formed type gives the steps down from it. -/
theorem steps_of_wellFormed {r : Ref} (hwf : g.WellFormed r) : g.steps r = .ok (g.branches r) := by
  unfold WellFormed at hwf
  unfold steps Node.steps branches
  cases hk : (g.node r).kind <;> simp only [hk] at hwf ⊢
  case primitive | polymorphic => simp [parts, hk]
  case enumeration => simp [parts, hk, hwf]
  case object => simp [hwf, identity]
  case list | set =>
    obtain ⟨item, hitem⟩ := List.length_eq_one_iff.1 hwf
    rw [parts_of_item (by simp [hk]) hitem, hitem]
    rfl
  case map =>
    obtain ⟨key, value, hpair, hkey⟩ : ∃ key value, (g.node r).elements = [key, value] ∧
        (g.node key.target).kind = .primitive .string := by
      split at hwf
      · next key value hpair => exact ⟨key, value, hpair, hwf⟩
      · cases hwf
    rw [parts_of_value hk hpair, hpair]
    exact if_pos hkey

/-- Only well-formed types pass the check. -/
theorem wellFormed_of_steps {r : Ref} {ways : List (Step Ref)} (h : g.steps r = .ok ways) :
    g.WellFormed r := by
  simp only [steps, Node.steps] at h
  unfold WellFormed
  cases hk : (g.node r).kind <;> simp only [hk] at h ⊢
  case contextual => cases h
  case object | enumeration =>
    split at h
    · next heligible => exact heligible
    · cases h
  case list | set =>
    split at h
    · next hitem => simp [hitem]
    · cases h
  case map =>
    split at h
    · next hpair =>
      split at h
      · next hkey => simpa [hpair] using hkey
      · cases h
    · cases h

/-- **The check of a descriptor by itself** succeeds at the well-formed types, with the steps down from
them. -/
theorem steps_eq_ok_iff {r : Ref} {ways : List (Step Ref)} :
    g.steps r = .ok ways ↔ g.WellFormed r ∧ ways = g.branches r := by
  constructor
  · intro h
    have hwf : g.WellFormed r := wellFormed_of_steps h
    rw [steps_of_wellFormed hwf] at h
    exact ⟨hwf, (Except.ok.inj h).symm⟩
  · rintro ⟨hwf, rfl⟩
    exact steps_of_wellFormed hwf

/-- The steps of a well-formed type lead to its parts. -/
theorem steps_eq_ok {r : Ref} {ways : List (Step Ref)} (h : g.steps r = .ok ways) :
    g.WellFormed r ∧ ways.map Prod.snd = g.parts r := by
  obtain ⟨hwf, rfl⟩ := steps_eq_ok_iff.1 h
  exact ⟨hwf, map_snd_branches r⟩

/-- A descriptor with a defect is not well formed. -/
theorem not_wellFormed_of_steps_eq_error {r : Ref} {defect : Defect}
    (h : g.steps r = .error defect) : ¬ g.WellFormed r := by
  intro hwf
  rw [steps_of_wellFormed hwf] at h
  cases h

variable (g)

/-! ### What an identity stands for -/

/-- What a descriptor shows: its kind, whether it has asked for a schema, and the name, the kind and
the identity of each element. Whether values may be absent is left out. -/
structure Signature where
  /-- How values are built. -/
  kind : Kind
  /-- Has the type asked for a schema? -/
  eligible : Bool
  /-- The name of each element with the kind and the identity of its type. -/
  elements : List (String × Kind × String)
  deriving Repr, DecidableEq

namespace Signature

/-- Is a descriptor with the signature right by itself? -/
def WellFormed (sig : Signature) : Prop :=
  match sig.kind with
  | .primitive _ | .polymorphic => True
  | .list | .set => sig.elements.length = 1
  | .map =>
    match sig.elements with
    | [key, _] => key.2.1 = .primitive .string
    | _ => False
  | .enumeration _ | .object => sig.eligible = true
  | .contextual => False

/-- The kinds and identities of the parts of a type with the signature. -/
def parts (sig : Signature) : List (Kind × String) :=
  match sig.kind with
  | .list | .set => if sig.elements.length = 1 then sig.elements.map Prod.snd else []
  | .map => if sig.elements.length = 2 then (sig.elements.map Prod.snd).drop 1 else []
  | .object => sig.elements.map Prod.snd
  | .primitive _ | .enumeration _ | .polymorphic | .contextual => []

end Signature

/-- The signature of a type. -/
def signature (r : Ref) : Signature where
  kind := (g.node r).kind
  eligible := (g.node r).eligible
  elements := (g.node r).elements.map fun e =>
    (e.name, (g.node e.target).kind, g.identity e.target)

/-- The kind and the identity of a type. -/
def label (r : Ref) : Kind × String := ((g.node r).kind, g.identity r)

/-- Do types reached from the roots under one identity look the same? Plain values are left out: a
type may be called like one of them. -/
def Coherent (roots : List Ref) : Prop :=
  ∀ r s, g.ReachedFrom roots r → g.ReachedFrom roots s → ¬ g.Plain r → ¬ g.Plain s →
    g.identity r = g.identity s → g.signature r = g.signature s

/-- Does a type that shares its identity with a well-formed one look like it, or is it at least
sound? -/
def Faithful (roots : List Ref) : Prop :=
  ∀ r s, g.ReachedFrom roots r → g.ReachedFrom roots s → ¬ g.Plain r → ¬ g.Plain s →
    g.identity r = g.identity s → g.WellFormed r → g.signature r = g.signature s ∨ g.Sound s

variable {g}

/-- Where equal identities mean equal shapes, the first type of an identity speaks for all. -/
theorem Coherent.faithful {roots : List Ref} (h : g.Coherent roots) : g.Faithful roots :=
  fun r s hr hs hrp hsp hid _ => .inl (h r s hr hs hrp hsp hid)

/-- What is well formed can be told from the signature. -/
theorem wellFormed_iff_signature {r : Ref} : g.WellFormed r ↔ (g.signature r).WellFormed := by
  unfold WellFormed Signature.WellFormed signature
  cases hk : (g.node r).kind with
  | list | set => simp
  | map =>
    rcases (g.node r).elements with _ | ⟨key, _ | ⟨value, _ | ⟨more, rest⟩⟩⟩ <;> simp
  | primitive | enumeration | object | polymorphic | contextual => rfl

/-- The parts can be told from the signature, nullability aside. -/
theorem map_label_parts (r : Ref) : (g.parts r).map g.label = (g.signature r).parts := by
  have hchildren : (g.children r).map g.label = (g.signature r).elements.map Prod.snd := by
    simp [children, signature, label, Function.comp_def]
  have hlength : (g.signature r).elements.length = (g.node r).elements.length := by
    simp [signature]
  unfold parts Signature.parts
  rw [← hchildren, hlength]
  show _ = match (g.node r).kind with
    | .list | .set => _
    | .map => _
    | .object => _
    | .primitive _ | .enumeration _ | .polymorphic | .contextual => _
  cases (g.node r).kind with
  | list | set =>
    simp only
    split <;> rfl
  | map =>
    simp only
    split
    · rw [List.map_drop]
    · rfl
  | primitive | enumeration | object | polymorphic | contextual => rfl

/-- Types with one signature are well formed together. -/
theorem wellFormed_of_signature_eq {r s : Ref} (h : g.signature r = g.signature s)
    (hr : g.WellFormed r) : g.WellFormed s := by
  rw [wellFormed_iff_signature] at hr ⊢
  rw [← h]
  exact hr

/-- The parts of types with one signature correspond, up to nullability. -/
theorem map_label_parts_eq {r s : Ref} (h : g.signature r = g.signature s) :
    (g.parts r).map g.label = (g.parts s).map g.label := by
  rw [map_label_parts, map_label_parts, h]

/-! ### Sets of identities that support themselves -/

variable (g)

/-- Is a type taken for valid by whoever takes the identities in `K` for valid? -/
def Settles (K : String → Prop) (r : Ref) : Prop := g.Plain r ∨ K (g.identity r)

/-- Is the identity that of a well-formed type all of whose parts are taken for valid? The type is
one of those that `P` holds of. -/
def Backed (P : Ref → Prop) (K : String → Prop) (identity : String) : Prop :=
  ∃ r, P r ∧ ¬ g.Plain r ∧ g.identity r = identity ∧ g.WellFormed r ∧
    ∀ s ∈ g.parts r, g.Settles K s

variable {g}

/-- What is settled stays so when more is known. -/
theorem Settles.mono {K L : String → Prop} (hKL : ∀ id, K id → L id) {r : Ref}
    (h : g.Settles K r) : g.Settles L r := h.imp_right (hKL _)

/-- What is backed stays so when more is known, and among more types. -/
theorem Backed.mono {P Q : Ref → Prop} {K L : String → Prop} (hPQ : ∀ r, P r → Q r)
    (hKL : ∀ id, K id → L id) {id : String} (h : g.Backed P K id) : g.Backed Q L id := by
  obtain ⟨r, hr, hplain, hid, hwf, hparts⟩ := h
  exact ⟨r, hPQ r hr, hplain, hid, hwf, fun s hs => (hparts s hs).mono hKL⟩

/-- What settles a type settles every type with the same kind and identity. -/
theorem settles_iff_of_label_eq {K : String → Prop} {r s : Ref} (h : g.label r = g.label s) :
    g.Settles K r ↔ g.Settles K s := by
  simp only [label, Prod.mk.injEq] at h
  unfold Settles Plain
  rw [h.1, h.2]

/-- The parts of types with one signature are settled together. -/
theorem settles_parts_of_signature_eq {K : String → Prop} {r s : Ref}
    (h : g.signature r = g.signature s) (hr : ∀ t ∈ g.parts r, g.Settles K t) :
    ∀ t ∈ g.parts s, g.Settles K t := by
  intro t ht
  have hmem : g.label t ∈ (g.parts r).map g.label := by
    rw [map_label_parts_eq h]
    exact List.mem_map_of_mem ht
  obtain ⟨t', ht', hlabel⟩ := List.mem_map.1 hmem
  exact (settles_iff_of_label_eq hlabel).1 (hr t' ht')

section

variable {roots : List Ref} {K : String → Prop}

/-- One step of the descent: a settled type is sound, or it is well formed and its parts are
settled. -/
theorem sound_or_step_of_settles (hfaithful : g.Faithful roots)
    (hbacked : ∀ id, K id → g.Backed (g.ReachedFrom roots) K id) {s : Ref}
    (hs : g.ReachedFrom roots s) (hsettled : g.Settles K s) :
    g.Sound s ∨ g.WellFormed s ∧ ∀ t ∈ g.parts s, g.Settles K t := by
  by_cases hplain : g.Plain s
  · exact .inl (sound_of_plain hplain)
  · obtain ⟨r, hr, hrp, hid, hwf, hparts⟩ := hbacked _ (hsettled.resolve_left hplain)
    rcases hfaithful r s hr hs hrp hplain hid hwf with hsig | hsound
    · exact .inr ⟨wellFormed_of_signature_eq hsig hwf, settles_parts_of_signature_eq hsig hparts⟩
    · exact .inl hsound

/-- **Identities that support themselves are those of sound types.** The walk is by the steps from
the type downwards: each type on the way is settled, or lies below a sound one. -/
theorem sound_of_settles (hfaithful : g.Faithful roots)
    (hbacked : ∀ id, K id → g.Backed (g.ReachedFrom roots) K id) {r : Ref}
    (hr : g.ReachedFrom roots r) (hsettled : g.Settles K r) : g.Sound r := by
  refine sound_of_closed (S := fun s => g.ReachedFrom roots s ∧ (g.Sound s ∨ g.Settles K s))
    ?_ ⟨hr, .inr hsettled⟩
  rintro s ⟨hs, hinv⟩
  have hstep : g.Sound s ∨ g.WellFormed s ∧ ∀ t ∈ g.parts s, g.Settles K t := by
    rcases hinv with hsound | hsettled
    · exact .inl hsound
    · exact sound_or_step_of_settles hfaithful hbacked hs hsettled
  have hbelow : ∀ t ∈ g.parts s, g.ReachedFrom roots t := fun t ht =>
    hs.trans (Reaches.of_mem_parts ht)
  rcases hstep with hsound | ⟨hwf, hparts⟩
  · exact ⟨hsound.wellFormed, fun t ht => ⟨hbelow t ht, .inl (hsound.of_mem_parts ht)⟩⟩
  · exact ⟨hwf, fun t ht => ⟨hbelow t ht, .inr (hparts t ht)⟩⟩

/-- In a coherent family, the parts of a settled type are settled. -/
theorem settles_parts_of_settles (hcoherent : g.Coherent roots)
    (hbacked : ∀ id, K id → g.Backed (g.ReachedFrom roots) K id) {s : Ref}
    (hs : g.ReachedFrom roots s) (hsettled : g.Settles K s) :
    ∀ t ∈ g.parts s, g.Settles K t := by
  by_cases hplain : g.Plain s
  · simp [parts_eq_nil_of_plain hplain]
  · obtain ⟨r, hr, hrp, hid, -, hparts⟩ := hbacked _ (hsettled.resolve_left hplain)
    exact settles_parts_of_signature_eq (hcoherent r s hr hs hrp hplain hid) hparts

end

/-! ### A family with a cycle -/

/-- Parents and children that refer to each other, and a type that refers to a child and to a type
of which only the name is known. A parent occurs with and without absence. -/
def familyNode : Fin 6 → Node (Fin 6)
  | 0 => { identity := "Parent", kind := .object, eligible := true,
           elements := [⟨"children", false, 1⟩] }
  | 1 => .list 2 "Child"
  | 2 => { identity := "Child", kind := .object, eligible := true,
           elements := [⟨"parent", false, 3⟩] }
  | 3 => { identity := "Parent", kind := .object, nullable := true, eligible := true,
           elements := [⟨"children", false, 1⟩] }
  | 4 => { identity := "Visit", kind := .object, eligible := true,
           elements := [⟨"child", false, 2⟩, ⟨"id", false, 5⟩] }
  | 5 => .contextual "Uuid"

/-- The graph of these types. -/
def family : Graph (Fin 6) := ⟨List.finRange 6, List.mem_finRange, familyNode⟩

/-- A graph in which all types of one identity look the same is coherent from all roots. -/
theorem coherent_of_forall (h : ∀ r s, ¬ g.Plain r → ¬ g.Plain s →
    g.identity r = g.identity s → g.signature r = g.signature s) (roots : List Ref) :
    g.Coherent roots := fun r s _ _ => h r s

/-- No two types of the family share an identity. -/
theorem coherent_family (roots : List (Fin 6)) : family.Coherent roots :=
  coherent_of_forall (by decide) roots

end TypeSchema.Graph
