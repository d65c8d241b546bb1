import TypeSchema.Proofs.Derive.Attributes
import TypeSchema.Proofs.Source.Keys

/-!
# Reading to the first refusal and to the end

A derive stops at the first key that it refuses, while the flags of a source are raised key by key
to the end. Of `serde` attributes that list keys, both see the same keys, in the same order.

* `ofAttributes_of_lists` says what a derive answers: the refusal of **the first key that has one**,
  or what all keys say together.
* `refused_iff_flagged`: there is a refusal if and only if a flag for a changed name or for inlining
  is raised, and otherwise both say the same.
-/

namespace TypeSchema

open Source (Attribute AttributeKey SerdeFlags Token isExpression_literal keysOf)

namespace Source

/-- **The keys of attributes that list keys** are all of those listed. -/
theorem keysOf_of_lists {name : String} {attributes : List Attribute}
    {written : List (List AttributeKey)}
    (h : List.Forall₂ Attribute.Lists (attributes.filter (·.isNamed name)) written) :
    keysOf name attributes = written.flatten := by
  unfold keysOf
  generalize attributes.filter (·.isNamed name) = named at h
  induction h with
  | nil => rfl
  | cons ha _ ih => rw [List.flatMap_cons, List.flatten_cons, ih, ha.keys_eq]

/-- Attributes of another name have no keys of the name. -/
theorem keysOf_eq_nil {name : String} {attributes : List Attribute}
    (h : ∀ a ∈ attributes, a.isNamed name = false) : keysOf name attributes = [] := by
  unfold keysOf
  rw [List.filter_eq_nil_iff.2 fun a ha => by simp [h a ha]]
  rfl

/-- The flags that keys of `serde` attributes raise. -/
def SerdeFlags.ofKeys (keys : List AttributeKey) : SerdeFlags where
  optional := keys.any AttributeKey.isDefault
  renamed := keys.any AttributeKey.isRename
  skipped := keys.any AttributeKey.isSkip
  flattened := keys.any AttributeKey.isFlatten

/-- **The flags of `serde` attributes that list keys**: those of all keys, in whatever attribute and
at whatever place they stand. -/
theorem SerdeFlags.ofAttributes_of_lists {attributes : List Attribute}
    {written : List (List AttributeKey)}
    (hserde : List.Forall₂ Attribute.Lists (attributes.filter (·.isNamed "serde")) written)
    (hkoja : ∀ a ∈ attributes, a.isNamed "koja" = false) :
    ofAttributes attributes = ofKeys written.flatten := by
  rw [ofAttributes_eq, keysOf_of_lists hserde, keysOf_eq_nil hkoja, List.any_nil, Bool.or_false,
    ofKeys]

end Source

namespace Derive.SerdeOptions

/-- Attributes are read as if all their keys were in one. -/
theorem foldlM_addAttribute_of_lists {attributes : List Attribute}
    {written : List (List AttributeKey)} (h : List.Forall₂ Attribute.Lists attributes written)
    (o : SerdeOptions) : attributes.foldlM addAttribute o = written.flatten.foldlM add o := by
  induction h generalizing o with
  | nil => rfl
  | @cons a keys rest more ha _ ih =>
    have hone : o.addAttribute a = keys.foldlM add o := by
      rw [addAttribute, ha.keys_eq]
      exact bind_pure _
    rw [List.foldlM_cons, List.flatten_cons, List.foldlM_append, hone]
    exact congrArg _ (funext ih)

/-- **What a derive answers** to `serde` attributes that list keys. -/
theorem ofAttributes_of_lists {attributes : List Attribute} {written : List (List AttributeKey)}
    (h : List.Forall₂ Attribute.Lists (attributes.filter (·.isNamed "serde")) written) :
    ofAttributes attributes = answer {} written.flatten :=
  (foldlM_addAttribute_of_lists h {}).trans (foldlM_add {} _)

/-- **Refused is what is flagged.** Let all `serde` attributes list keys, and let there be no `koja`
attribute. A derive fails if and only if a flag says that a name is changed or that something is
inlined. If it does not fail, it says the same of defaults and of what is left out as the flags. The
flags are those of all keys listed, whatever stands between them. -/
theorem refused_iff_flagged {attributes : List Attribute} {written : List (List AttributeKey)}
    (hserde : List.Forall₂ Attribute.Lists (attributes.filter (·.isNamed "serde")) written)
    (hkoja : ∀ a ∈ attributes, a.isNamed "koja" = false) :
    let flags := SerdeFlags.ofAttributes attributes
    ((∃ e, ofAttributes attributes = .error e) ↔ flags.renamed = true ∨ flags.flattened = true) ∧
      (∀ o, ofAttributes attributes = .ok o →
        o.optional = flags.optional ∧ o.skipped = flags.skipped) ∧
      flags = .ofKeys written.flatten := by
  intro flags
  have hkeys : keysOf "serde" attributes = written.flatten := Source.keysOf_of_lists hserde
  have hflags : flags = .ofKeys written.flatten := SerdeFlags.ofAttributes_of_lists hserde hkoja
  have hplain : written.flatten.findSome? refusal? = none ↔
      flags.renamed = false ∧ flags.flattened = false := by
    rw [findSome?_refusal?_eq_none_iff, ← hkeys]
    exact plain_iff_flags
  rw [ofAttributes_of_lists hserde, answer]
  cases hfirst : written.flatten.findSome? refusal? with
  | some e =>
    have hraised : flags.renamed = true ∨ flags.flattened = true := by
      by_contra hnone
      rw [not_or, Bool.not_eq_true, Bool.not_eq_true] at hnone
      exact Option.some_ne_none e (hfirst.symm.trans (hplain.2 hnone))
    refine ⟨iff_of_true ⟨e, rfl⟩ hraised, fun o ho => ?_, hflags⟩
    cases ho
  | none =>
    obtain ⟨hrenamed, hflattened⟩ := hplain.1 hfirst
    refine ⟨iff_of_false ?_ (by simp [hrenamed, hflattened]), fun o ho => ?_, hflags⟩
    · rintro ⟨e, he⟩
      cases he
    · obtain rfl := Except.ok.inj ho
      rw [hflags]
      exact ⟨Bool.false_or _, Bool.false_or _⟩

/-- An attribute with a default, and one with a comment beside it. The commas in parentheses are not
between keys. -/
def bounded : List Attribute :=
  [{ path := [{ name := "serde" }]
     body := .list
       [Token.plain "bound", .group .parenthesis
          [Token.plain "serialize", .punct '=' false, .literal "\"T: Clone\"", .punct ',' false,
            Token.plain "rename"],
        .punct ',' false, Token.plain "default", .punct '=' false, .literal "\"make\"",
        .punct ',' false] },
   { path := [{ name := "doc" }], body := .value (some "Bounded.") }]

/-- Two keys, the second of which changes a name. -/
def picked : Attribute where
  path := [{ name := "serde" }]
  body := .list
    [Token.plain "with", .punct '=' false, Token.plain "pick", .group .parenthesis
       [Token.plain "skip", .punct ',' false, Token.plain "flatten"],
     .punct ',' false, Token.plain "rename", .punct '=' false, .literal "\"id\""]

/-- What the attributes of the example list. -/
theorem lists_bounded : List.Forall₂ Attribute.Lists (bounded.filter (·.isNamed "serde"))
    [[{ path := [{ name := "bound" }] }, { path := [{ name := "default" }] }]] := by
  refine .cons ⟨_, rfl, .next (.bare (.last { name := "bound" })) false (.list _) ?_⟩ .nil
  exact .next (.bare (.last { name := "default" })) false (.expression false [.literal _]
    (isExpression_literal _ _ (.comma _ _))) .nil

/-- What the attribute of the example lists. -/
theorem lists_picked : picked.Lists
    [{ path := [{ name := "with" }] }, { path := [{ name := "rename" }] }] := by
  refine ⟨_, rfl, .next (.bare (.last { name := "with" })) false
    (.expression false [Token.plain _, .group _ _] ⟨_, _, rfl⟩) ?_⟩
  exact .last (.bare (.last { name := "rename" })) (.expression false [.literal _]
    (isExpression_literal _ _ .nil))

/-- The default is read, and no flag is raised in parentheses. If another attribute is added, what
it says after a value counts as well. -/
theorem refused_iff_flagged_bounded :
    let accepted := SerdeFlags.ofAttributes bounded
    let refused := SerdeFlags.ofAttributes (bounded ++ [picked])
    (accepted = { optional := true } ∧ ofAttributes bounded = .ok { optional := true } ∧
      ((∃ e, ofAttributes bounded = .error e) ↔
        accepted.renamed = true ∨ accepted.flattened = true)) ∧
    (refused = { optional := true, renamed := true } ∧
      ofAttributes (bounded ++ [picked]) = .error .renamed ∧
      ((∃ e, ofAttributes (bounded ++ [picked]) = .error e) ↔
        refused.renamed = true ∨ refused.flattened = true)) := by
  have hrefused : List.Forall₂ Attribute.Lists
      ((bounded ++ [picked]).filter (·.isNamed "serde"))
      [_, [{ path := [{ name := "with" }] }, { path := [{ name := "rename" }] }]] :=
    List.rel_append lists_bounded (.cons lists_picked .nil)
  exact ⟨⟨by rfl, by rfl, (refused_iff_flagged lists_bounded (by decide)).1⟩,
    by rfl, by rfl, (refused_iff_flagged hrefused (by decide)).1⟩

end Derive.SerdeOptions

end TypeSchema
