import TypeSchema.Proofs.Derive.Attributes
import TypeSchema.Proofs.Source.Parser

/-!
# Two readers of one attribute

A derive reads the `koja` attributes of a field with a grammar of their own (`Derive.defaultKey`),
and reading whole sources takes them for a list of keys like any other (`Grammar.keysFrom`).

* `head_of_run_defaultKey`: where the first reader succeeds, the second one finds the key `default`.
* `keys_of_defaultKeys?`: of an attribute that a derive understands, the keys begin with `default`
  unless there are none.
* `any_isDefault_of_fieldDefault`: the readers agree on a field whose attributes **say so plainly**; the
  second one does not look at a value.
-/

namespace TypeSchema

open Source (Attribute AttributeKey Identifier ParseState Parser Rules Token keysOf startsOperator)

/-! ### The key of a default -/

namespace Source.Grammar

/-- The keys that are read come after those that were. -/
theorem prefix_keysFrom (rules : Rules) (fuel : Nat) (read : List AttributeKey) (s : ParseState) :
    read.reverse <+: (keysFrom rules fuel read s).keys := by
  induction fuel generalizing read s with
  | zero => exact List.prefix_refl _
  | succ fuel ih =>
    unfold keysFrom
    split
    · exact List.prefix_refl _
    · next key s' hkey =>
      have hread : read.reverse <+: (key :: read).reverse := by
        rw [List.reverse_cons]
        exact List.prefix_append _ _
      dsimp only
      split
      · exact hread
      · exact hread.trans (ih (key :: read) _)
      · exact hread

/-- The first key is the one whose path is read first. -/
theorem head_keysFrom (rules : Rules) (fuel : Nat) {key : AttributeKey} {s after : ParseState}
    (h : keyPath.run s = some (key, after)) :
    ∃ more, (keysFrom rules (fuel + 1) [] s).keys = key :: more := by
  have hprefix : [key] <+: (keysFrom rules (fuel + 1) [] s).keys := by
    unfold keysFrom
    rw [h]
    dsimp only
    split
    · exact List.prefix_refl _
    · exact prefix_keysFrom rules fuel [key] _
    · exact List.prefix_refl _
  obtain ⟨more, hmore⟩ := hprefix
  exact ⟨more, hmore.symm⟩

end Source.Grammar

namespace Derive

open Source (eq_cons_of_startsChars)
open Source.Parser

/-- Where a default is read, a key of that name is read. -/
theorem head_of_run_defaultKey {s after : ParseState} {value : Bool}
    (h : defaultKey.run s = some (value, after)) :
    ∃ rooted s', Source.Grammar.keyPath.run s =
      some ({ rooted, path := [{ name := "default" }] }, s') := by
  obtain ⟨_, s₁, hroot, h⟩ := run_bind_eq_some_iff.1 h
  obtain ⟨_, s₂, hword, h⟩ := run_bind_eq_some_iff.1 h
  obtain ⟨rooted, hroot⟩ := run_discard_eq_some hroot
  have hname := run_word_eq_some hword
  have hend : startsOperator "::" s₂.rest = false := by
    obtain ⟨given, s₃, hgiven, h⟩ := run_bind_eq_some_iff.1 h
    cases hequals : startsOperator "=" s₂.rest with
    | true =>
      obtain ⟨joint, rest, hrest⟩ := eq_cons_of_startsChars '=' [] hequals
      rw [hrest]
      rfl
    | false =>
      rw [run_operator?_of_not hequals] at hgiven
      cases hgiven
      obtain ⟨_, _, hpure, h⟩ := run_bind_eq_some_iff.1 h
      cases hpure
      obtain ⟨_, _, hpeek, h⟩ := run_bind_eq_some_iff.1 h
      cases hpeek
      obtain ⟨_, _, hensure, h⟩ := run_bind_eq_some_iff.1 h
      obtain ⟨hend, rfl⟩ := run_ensure_eq_some hensure
      rcases Bool.or_eq_true_iff.1 hend with hempty | hcomma
      · rw [List.isEmpty_iff.1 hempty]
        rfl
      · obtain ⟨joint, rest, hrest⟩ := eq_cons_of_startsChars ',' [] hcomma
        rw [hrest]
        rfl
  refine ⟨rooted, s₂, run_bind_eq_some_iff.2 ⟨rooted, s₁, hroot, ?_⟩⟩
  refine run_bind_eq_some_iff.2 ⟨[{ name := "default" }], s₂, ?_, rfl⟩
  rw [run_iterate]
  refine run_bind_eq_some_iff.2 ⟨.inr [{ name := "default" }], s₂, ?_, rfl⟩
  refine run_bind_eq_some_iff.2 ⟨_, s₂, hname, ?_⟩
  exact run_bind_eq_some_iff.2 ⟨false, s₂, run_operator?_of_not hend, rfl⟩

/-- **The keys of an attribute that a derive understands**: the first is `default`, unless the attribute
says nothing. -/
theorem keys_of_defaultKeys? {a : Attribute} {values : List Bool}
    (h : defaultKeys? a = some values) :
    (values = [] ∧ a.keys.keys = []) ∨
      (values ≠ [] ∧ ∃ rooted more,
        a.keys.keys = { rooted, path := [{ name := "default" }] } :: more) := by
  obtain ⟨path, rooted, body⟩ := a
  cases body with
  | none =>
    cases h
    exact .inl ⟨rfl, rfl⟩
  | value => cases h
  | list tokens =>
    obtain ⟨⟨read, after⟩, hrun, h⟩ := Option.bind_eq_some_iff.1 h
    have hvalues : read = values := by
      dsimp only at h
      split at h
      · exact Option.some.inj h
      · cases h
    subst hvalues
    obtain ⟨hempty, rfl⟩ | ⟨⟨value, s', hfirst⟩, hsome⟩ := run_listToEnd_cases hrun
    · have htokens : tokens = [] := hempty
      exact .inl ⟨rfl, by rw [htokens]; rfl⟩
    · refine .inr ⟨hsome, ?_⟩
      obtain ⟨keyRooted, s₁, hkey⟩ := head_of_run_defaultKey hfirst
      cases tokens with
      | nil => cases hkey
      | cons token rest =>
        obtain ⟨more, hmore⟩ := Source.Grammar.head_keysFrom _ (token :: rest).length hkey
        exact ⟨keyRooted, more, hmore⟩

/-! ### All `koja` attributes -/

/-- The values that one attribute gives. -/
def valuesOf (a : Attribute) : Except DeriveError (List Bool) :=
  match defaultKeys? a with
  | some values => pure values
  | none => throw .option

/-- An attribute has the values that are read from its keys. -/
theorem valuesOf_eq_ok_iff {a : Attribute} {values : List Bool} :
    valuesOf a = .ok values ↔ defaultKeys? a = some values := by
  unfold valuesOf
  cases defaultKeys? a with
  | none => exact iff_of_false nofun nofun
  | some given =>
    exact ⟨fun h => congrArg some (Except.ok.inj h), fun h => congrArg Except.ok (Option.some.inj h)⟩

/-- The values that attributes give are those of each of them. -/
theorem kojaValues_eq_ok_iff {attributes : List Attribute} {values : List Bool} :
    kojaValues attributes = .ok values ↔
      (∀ a ∈ attributes.filter (·.isNamed "koja"), ∃ given, defaultKeys? a = some given) ∧
        (attributes.filter (·.isNamed "koja")).flatMap (fun a => (defaultKeys? a).getD []) =
          values := by
  have hgiven : ∀ a given, valuesOf a = .ok given → (defaultKeys? a).getD [] = given := by
    intro a given h
    rw [valuesOf_eq_ok_iff.1 h]
    rfl
  show ((attributes.filter (·.isNamed "koja")).mapM valuesOf >>= fun values =>
    Except.ok values.flatten) = .ok values ↔ _
  rw [bind_eq_ok_iff, List.flatMap_def]
  simp only [mapM_eq_ok_iff hgiven, valuesOf_eq_ok_iff]
  constructor
  · rintro ⟨_, ⟨hunderstood, rfl⟩, h⟩
    exact ⟨hunderstood, Except.ok.inj h⟩
  · rintro ⟨hunderstood, rfl⟩
    exact ⟨_, ⟨hunderstood, rfl⟩, rfl⟩

/-- Does an attribute, if it is one of `koja`, say that there is a default or nothing? It may give the
key no value but `true`, and must not write a double colon before it. -/
def SaysPlainly (a : Attribute) : Prop :=
  a.isNamed "koja" = true → defaultKeys? a ≠ some [false] ∧ ∀ key ∈ a.keys.keys, key.rooted = false

/-- Attributes that give no value have no keys. -/
theorem keysOf_of_kojaValues {attributes : List Attribute} (h : kojaValues attributes = .ok []) :
    keysOf "koja" attributes = [] := by
  obtain ⟨hunderstood, hvalues⟩ := kojaValues_eq_ok_iff.1 h
  refine List.flatMap_eq_nil_iff.2 fun a ha => ?_
  obtain ⟨given, hgiven⟩ := hunderstood a ha
  have hnone : (defaultKeys? a).getD [] = [] := List.flatMap_eq_nil_iff.1 hvalues a ha
  rw [hgiven] at hnone
  obtain ⟨-, hkeys⟩ | ⟨hsome, -⟩ := keys_of_defaultKeys? hgiven
  · exact hkeys
  · exact absurd hnone hsome

/-- A type whose `koja` attributes are accepted has no keys in them. -/
theorem keysOf_of_checkContainer {attributes : List Attribute}
    (h : checkContainer attributes = .ok ()) : keysOf "koja" attributes = [] := by
  obtain ⟨values, hvalues, h⟩ := bind_eq_ok_iff.1 h
  cases values with
  | nil => exact keysOf_of_kojaValues hvalues
  | cons => cases h

/-- A single value is given by one of the attributes. -/
theorem exists_of_kojaValues {attributes : List Attribute} {value : Bool}
    (h : kojaValues attributes = .ok [value]) :
    ∃ a ∈ attributes, a.isNamed "koja" = true ∧ defaultKeys? a = some [value] := by
  obtain ⟨hunderstood, hvalues⟩ := kojaValues_eq_ok_iff.1 h
  have hmem : value ∈ (attributes.filter (·.isNamed "koja")).flatMap
      fun a => (defaultKeys? a).getD [] := by
    rw [hvalues]
    exact List.mem_singleton_self value
  obtain ⟨a, ha, hvalue⟩ := List.mem_flatMap.1 hmem
  obtain ⟨given, hgiven⟩ := hunderstood a ha
  have hsublist : given.Sublist [value] := by
    rw [← hvalues, List.flatMap_def]
    refine List.sublist_flatten_of_mem (List.mem_map.2 ⟨a, ha, ?_⟩)
    rw [hgiven]
    rfl
  rw [hgiven] at hvalue
  obtain rfl | rfl := List.sublist_singleton.1 hsublist
  · exact absurd hvalue List.not_mem_nil
  · exact ⟨a, (List.mem_filter.1 ha).1, (List.mem_filter.1 ha).2, hgiven⟩

/-- **Both readers agree** on attributes that say plainly whether there is a default. -/
theorem any_isDefault_of_fieldDefault {attributes : List Attribute} {value : Bool}
    (h : fieldDefault attributes = .ok value) (hplain : ∀ a ∈ attributes, SaysPlainly a) :
    (keysOf "koja" attributes).any AttributeKey.isDefault = value := by
  obtain ⟨values, hvalues, h⟩ := bind_eq_ok_iff.1 h
  match values, hvalues, h with
  | [], hvalues, h =>
    cases h
    rw [keysOf_of_kojaValues hvalues]
    rfl
  | [given], hvalues, h =>
    cases h
    obtain ⟨a, ha, hnamed, hgiven⟩ := exists_of_kojaValues hvalues
    obtain ⟨htrue, hrooted⟩ := hplain a ha hnamed
    cases value with
    | false => exact absurd hgiven htrue
    | true =>
      obtain ⟨hnil, -⟩ | ⟨-, rooted, more, hkeys⟩ := keys_of_defaultKeys? hgiven
      · cases hnil
      · have hkey : { rooted, path := [{ name := "default" }] } ∈ a.keys.keys := by
          rw [hkeys]
          exact List.mem_cons_self
        have hunrooted : rooted = false := hrooted _ hkey
        have hmem : { rooted, path := [{ name := "default" }] } ∈ keysOf "koja" attributes :=
          List.mem_flatMap.2 ⟨a, List.mem_filter.2 ⟨ha, hnamed⟩, hkey⟩
        refine List.any_eq_true.2 ⟨_, hmem, ?_⟩
        rw [hunrooted]
        rfl

end Derive

end TypeSchema
