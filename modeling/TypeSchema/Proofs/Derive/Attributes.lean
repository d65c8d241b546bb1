import Mathlib
import TypeSchema.Derive.Expansion

/-!
# What attributes say

A derive stops at the first attribute that it refuses, and whole sources are read with flags that are
looked at afterwards. Both are said here of the keys of all attributes of a name (`keysOf`):

* `SerdeFlags.ofAttributes_eq` gives the flags, and `SerdeOptions.ofAttributes_eq_ok_iff` the
  attributes that a derive accepts, with what they say to it.
* `SerdeOptions.foldlM_add`: keys are read up to **the first that is refused**.
* `exists_ofAttributes_iff` compares them: attributes that can be read are accepted if and only if
  they are **not flagged** as changing a name or inlining.
-/

namespace TypeSchema

open Source (Attribute AttributeKey SerdeFlags)

/-! ### Steps that may fail -/

section

variable {ε α β : Type}

/-- Two steps succeed if the first does and the second, after it, does. -/
theorem bind_eq_ok_iff {x : Except ε α} {f : α → Except ε β} {b : β} :
    x >>= f = .ok b ↔ ∃ a, x = .ok a ∧ f a = .ok b := by
  cases x with
  | error e => exact iff_of_false nofun fun ⟨_, h, _⟩ => nomatch h
  | ok a => exact ⟨fun h => ⟨a, rfl, h⟩, fun ⟨_, h, hb⟩ => by cases h; exact hb⟩

/-- A check before a step. -/
theorem check_bind_eq_ok_iff {x : Except ε Unit} {f : Unit → Except ε β} {b : β} :
    x >>= f = .ok b ↔ x = .ok () ∧ f () = .ok b := by
  rw [bind_eq_ok_iff]
  exact ⟨fun ⟨_, h⟩ => h, fun h => ⟨(), h⟩⟩

/-- A step for each part of a list succeeds if all of them do. `g` gives what they give. -/
theorem mapM_eq_ok_iff {f : α → Except ε β} {g : α → β} (hg : ∀ x y, f x = .ok y → g x = y)
    {xs : List α} {ys : List β} :
    xs.mapM f = .ok ys ↔ (∀ x ∈ xs, ∃ y, f x = .ok y) ∧ xs.map g = ys := by
  induction xs generalizing ys with
  | nil =>
    rw [List.mapM_nil, List.map_nil]
    exact ⟨fun h => ⟨fun _ hx => absurd hx List.not_mem_nil, Except.ok.inj h⟩,
      fun h => congrArg Except.ok h.2⟩
  | cons x rest ih =>
    rw [List.mapM_cons, bind_eq_ok_iff, List.forall_mem_cons, List.map_cons]
    simp only [bind_eq_ok_iff, ih]
    constructor
    · rintro ⟨y, hy, _, ⟨hrest, rfl⟩, h⟩
      rw [hg x y hy]
      exact ⟨⟨⟨y, hy⟩, hrest⟩, Except.ok.inj h⟩
    · rintro ⟨⟨⟨y, hy⟩, hrest⟩, rfl⟩
      rw [hg x y hy]
      exact ⟨y, hy, _, ⟨hrest, rfl⟩, rfl⟩

end

namespace Source

/-- The keys of all attributes of a name. -/
def keysOf (name : String) (attributes : List Attribute) : List AttributeKey :=
  (attributes.filter (·.isNamed name)).flatMap fun a => a.keys.keys

/-- An attribute has one name. -/
theorem Attribute.isNamed_unique {a : Attribute} {name other : String} (h : a.isNamed name = true)
    (hother : a.isNamed other = true) : name = other := by
  obtain ⟨path, rooted, body⟩ := a
  cases path with
  | nil => cases h
  | cons id rest =>
    cases rest with
    | nil =>
      simp only [isNamed, isWordPath, Identifier.isWord, Bool.and_eq_true, beq_iff_eq] at h hother
      exact h.2.2.symm.trans hother.2.2
    | cons => cases h

/-- The keys in attributes are those of the first one and of the others. -/
theorem keysOf_cons (name : String) (a : Attribute) (rest : List Attribute) :
    keysOf name (a :: rest) = (if a.isNamed name then a.keys.keys else []) ++ keysOf name rest := by
  unfold keysOf
  rw [List.filter_cons]
  split <;> simp

/-! ### Flags -/

namespace SerdeFlags

/-- What keys add to flags. -/
theorem foldl_add (serde : Bool) (flags : SerdeFlags) (keys : List AttributeKey) :
    keys.foldl (add serde) flags =
      { optional := flags.optional || keys.any AttributeKey.isDefault
        renamed := flags.renamed || serde && keys.any AttributeKey.isRename
        skipped := flags.skipped || serde && keys.any AttributeKey.isSkip
        flattened := flags.flattened || serde && keys.any AttributeKey.isFlatten } := by
  induction keys generalizing flags with
  | nil => simp
  | cons key rest ih =>
    rw [List.foldl_cons, ih]
    simp only [add, List.any_cons, Bool.or_assoc, Bool.and_or_distrib_left]

/-- What attributes add to flags: their order does not matter. -/
theorem foldl_attributes (flags : SerdeFlags) (attributes : List Attribute) :
    attributes.foldl (fun flags a =>
        if a.isNamed "serde" then a.keys.keys.foldl (add true) flags
        else if a.isNamed "koja" then a.keys.keys.foldl (add false) flags
        else flags) flags =
      { optional := flags.optional || ((keysOf "serde" attributes).any AttributeKey.isDefault ||
          (keysOf "koja" attributes).any AttributeKey.isDefault)
        renamed := flags.renamed || (keysOf "serde" attributes).any AttributeKey.isRename
        skipped := flags.skipped || (keysOf "serde" attributes).any AttributeKey.isSkip
        flattened := flags.flattened ||
          (keysOf "serde" attributes).any AttributeKey.isFlatten } := by
  induction attributes generalizing flags with
  | nil => simp [keysOf]
  | cons a rest ih =>
    rw [List.foldl_cons, ih, keysOf_cons, keysOf_cons]
    by_cases hserde : a.isNamed "serde" = true
    · have hkoja : ¬ a.isNamed "koja" = true := fun hkoja =>
        absurd (Attribute.isNamed_unique hserde hkoja) (by decide)
      simp [hserde, hkoja, foldl_add, Bool.or_assoc]
    · by_cases hkoja : a.isNamed "koja" = true
      · simp [hserde, hkoja, foldl_add, Bool.or_assoc, Bool.or_left_comm]
      · simp [hserde, hkoja]

/-- **The flags of attributes**, by the keys of all of them. -/
theorem ofAttributes_eq (attributes : List Attribute) :
    ofAttributes attributes =
      { optional := (keysOf "serde" attributes).any AttributeKey.isDefault ||
          (keysOf "koja" attributes).any AttributeKey.isDefault
        renamed := (keysOf "serde" attributes).any AttributeKey.isRename
        skipped := (keysOf "serde" attributes).any AttributeKey.isSkip
        flattened := (keysOf "serde" attributes).any AttributeKey.isFlatten } := by
  unfold ofAttributes
  rw [foldl_attributes]
  simp

end SerdeFlags

end Source

/-! ### Options -/

namespace Derive.SerdeOptions

open Source (keysOf)

/-- What keys that a derive accepts say to it. -/
def ofKeys (keys : List AttributeKey) : SerdeOptions where
  optional := keys.any AttributeKey.isDefault
  skipped := keys.any AttributeKey.isSkip

/-- Does no key change a name or inline? -/
def Plain (keys : List AttributeKey) : Prop :=
  ∀ key ∈ keys, key.isRename = false ∧ key.isFlatten = false

/-- What two lists of keys say together. -/
def or (o p : SerdeOptions) : SerdeOptions where
  optional := o.optional || p.optional
  skipped := o.skipped || p.skipped

/-- Keys can be taken in together or in turn. -/
theorem or_ofKeys_append (o : SerdeOptions) (keys more : List AttributeKey) :
    (o.or (ofKeys keys)).or (ofKeys more) = o.or (ofKeys (keys ++ more)) := by
  simp [or, ofKeys, Bool.or_assoc]

/-- Keys in a row are plain if all of them are. -/
@[simp] theorem plain_append_iff {keys more : List AttributeKey} :
    Plain (keys ++ more) ↔ Plain keys ∧ Plain more := by
  simp only [Plain, List.mem_append, or_imp, forall_and]
  tauto

/-- Why a key is refused, if it is. -/
def refusal? (key : AttributeKey) : Option DeriveError :=
  if key.isRename then some .renamed else if key.isFlatten then some .flattened else none

/-- The answer to keys: the first refusal among them, or what they say together with what was said
before. -/
def answer (o : SerdeOptions) (keys : List AttributeKey) : Except DeriveError SerdeOptions :=
  match keys.findSome? refusal? with
  | some e => .error e
  | none => .ok (o.or (ofKeys keys))

/-- Nothing is refused exactly if all keys are plain. -/
theorem findSome?_refusal?_eq_none_iff {keys : List AttributeKey} :
    keys.findSome? refusal? = none ↔ Plain keys := by
  rw [List.findSome?_eq_none_iff]
  refine forall₂_congr fun key _ => ?_
  unfold refusal?
  cases key.isRename <;> cases key.isFlatten <;> simp

/-- One key is added, or it is refused. -/
theorem add_eq (o : SerdeOptions) (key : AttributeKey) :
    o.add key =
      match refusal? key with
      | some e => .error e
      | none => .ok (o.or (ofKeys [key])) := by
  unfold add refusal?
  cases key.isRename <;> cases key.isFlatten <;> simp [or, ofKeys]

/-- Keys are read up to the first refusal. -/
theorem foldlM_add (o : SerdeOptions) (keys : List AttributeKey) :
    keys.foldlM add o = o.answer keys := by
  induction keys generalizing o with
  | nil => simp [answer, or, ofKeys, pure, Except.pure]
  | cons key rest ih =>
    rw [List.foldlM_cons, add_eq, answer, List.findSome?_cons]
    cases refusal? key with
    | some e => rfl
    | none =>
      show rest.foldlM add (o.or (ofKeys [key])) = _
      rw [ih, answer, or_ofKeys_append, List.singleton_append]

/-- All keys of an attribute are accepted unless one of them changes a name or inlines. -/
theorem foldlM_add_eq_ok_iff {o p : SerdeOptions} {keys : List AttributeKey} :
    keys.foldlM add o = .ok p ↔ Plain keys ∧ o.or (ofKeys keys) = p := by
  rw [foldlM_add, answer, ← findSome?_refusal?_eq_none_iff]
  cases keys.findSome? refusal? with
  | some e => exact iff_of_false nofun fun h => nomatch h.1
  | none => exact ⟨fun h => ⟨rfl, Except.ok.inj h⟩, fun h => congrArg Except.ok h.2⟩

/-- An attribute is accepted if all of it can be read and its keys are accepted. -/
theorem addAttribute_eq_ok_iff {o p : SerdeOptions} {a : Attribute} :
    o.addAttribute a = .ok p ↔
      a.keys.complete = true ∧ Plain a.keys.keys ∧ o.or (ofKeys a.keys.keys) = p := by
  unfold addAttribute
  rw [bind_eq_ok_iff]
  simp only [foldlM_add_eq_ok_iff]
  by_cases hcomplete : a.keys.complete = true
  · simp only [hcomplete, if_true, true_and]
    exact ⟨fun ⟨_, ⟨hplain, rfl⟩, h⟩ => ⟨hplain, Except.ok.inj h⟩,
      fun ⟨hplain, h⟩ => ⟨_, ⟨hplain, h⟩, rfl⟩⟩
  · refine iff_of_false ?_ fun h => hcomplete h.1
    rintro ⟨_, -, h⟩
    rw [if_neg hcomplete] at h
    cases h

/-- Attributes are taken in exactly if they are complete and all their keys are plain. -/
theorem foldlM_addAttribute_eq_ok_iff {o p : SerdeOptions} {attributes : List Attribute} :
    attributes.foldlM addAttribute o = .ok p ↔
      (∀ a ∈ attributes, a.keys.complete = true) ∧
        Plain (attributes.flatMap fun a => a.keys.keys) ∧
          o.or (ofKeys (attributes.flatMap fun a => a.keys.keys)) = p := by
  induction attributes generalizing o with
  | nil => simp [Plain, or, ofKeys, pure, Except.pure]
  | cons a rest ih =>
    rw [List.foldlM_cons, bind_eq_ok_iff, List.forall_mem_cons, List.flatMap_cons,
      plain_append_iff, ← or_ofKeys_append]
    simp only [addAttribute_eq_ok_iff, ih]
    constructor
    · rintro ⟨_, ⟨ha, hplain, rfl⟩, hrest, hplains, h⟩
      exact ⟨⟨ha, hrest⟩, ⟨hplain, hplains⟩, h⟩
    · rintro ⟨⟨ha, hrest⟩, ⟨hplain, hplains⟩, h⟩
      exact ⟨_, ⟨ha, hplain, rfl⟩, hrest, hplains, h⟩

/-- **The attributes that a derive accepts**, and what they say to it. -/
theorem ofAttributes_eq_ok_iff {attributes : List Attribute} {o : SerdeOptions} :
    ofAttributes attributes = .ok o ↔
      (∀ a ∈ attributes, a.isNamed "serde" = true → a.keys.complete = true) ∧
        Plain (keysOf "serde" attributes) ∧ ofKeys (keysOf "serde" attributes) = o := by
  unfold ofAttributes
  rw [foldlM_addAttribute_eq_ok_iff]
  simp only [List.mem_filter, and_imp, keysOf]
  have hempty : ∀ p : SerdeOptions, or {} p = p := fun p => by simp [or]
  rw [hempty]

/-- Keys are accepted if they are not flagged as changing a name or inlining. -/
theorem plain_iff_flags {attributes : List Attribute} :
    Plain (keysOf "serde" attributes) ↔
      (SerdeFlags.ofAttributes attributes).renamed = false ∧
        (SerdeFlags.ofAttributes attributes).flattened = false := by
  rw [SerdeFlags.ofAttributes_eq]
  simp only [Plain, List.any_eq_false, Bool.not_eq_true, forall_and]

/-- **Attributes that can be read** are accepted if and only if they are not flagged as changing a name
or inlining. -/
theorem exists_ofAttributes_iff {attributes : List Attribute}
    (h : ∀ a ∈ attributes, a.isNamed "serde" = true → a.keys.complete = true) :
    (∃ o, ofAttributes attributes = .ok o) ↔
      (SerdeFlags.ofAttributes attributes).renamed = false ∧
        (SerdeFlags.ofAttributes attributes).flattened = false := by
  simp only [ofAttributes_eq_ok_iff, exists_and_left, exists_eq', and_true, plain_iff_flags]
  exact and_iff_right h

end Derive.SerdeOptions

end TypeSchema
