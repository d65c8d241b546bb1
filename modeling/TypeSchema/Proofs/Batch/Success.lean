import TypeSchema.Proofs.Batch

/-!
# Batches without failures

A sound type that generation can handle gets its schema from every batch, whatever the validator has
seen: `Makes` is the property of a type by itself that a batch depends on. In a faithful family the
converse holds too, and so a batch has no failure if and only if all of its types have it.

* `value_runOne_of_makes` and `makes_of_value_runOne` are one type of a batch.
* `makes_of_failures_eq_nil`: **a batch without failures** is one of types that succeed by themselves.
* `failures_runFrom_of_makes` and `get?_runFrom_of_makes`: a batch of such types has no failures, and
  under each identity the schema that its type has by itself.
-/

namespace TypeSchema.Batch

open Attempt Validator

variable {Ref : Type} {g : Graph Ref} {docs : DocRegistry} {config : GeneratorConfig}
  {starts : List Ref}

/-- Is the type sound, and does generation make the schema of it? -/
structure Makes (g : Graph Ref) (docs : DocRegistry) (config : GeneratorConfig) (r : Ref)
    (schema : Schema) : Prop where
  /-- Everything below it is well formed. -/
  sound : g.Sound r
  /-- Generation ends with the schema. -/
  schema_eq : (g.schema docs config r).result = .ok schema

/-! ### One type -/

/-- A type that succeeds by itself succeeds after any others. -/
theorem value_runOne_of_makes {v : Validator} {r : Ref} {schema : Schema}
    (h : Makes g docs config r schema) :
    (runOne g docs config v r).1.value = .ok schema := by
  have hvalid : (v.validate g r).1.result = .ok () := visit_of_sound h.sound
  rw [value_runOne, hvalid]
  show (g.schema docs config r).result.mapError Failure.schema = .ok schema
  rw [h.schema_eq]
  rfl

/-- What succeeds in a batch is what generation makes. -/
theorem schema_of_value_runOne {v : Validator} {r : Ref} {schema : Schema}
    (h : (runOne g docs config v r).1.value = .ok schema) :
    (g.schema docs config r).result = .ok schema := by
  rw [value_runOne] at h
  split at h
  · cases hschema : (g.schema docs config r).result with
    | error e =>
      rw [hschema] at h
      cases h
    | ok made =>
      rw [hschema] at h
      cases h
      rfl
  · cases h

/-- **What succeeds in a batch** of a faithful family succeeds by itself. -/
theorem makes_of_value_runOne {v : Validator} {r : Ref} {schema : Schema}
    (hfaithful : g.Faithful starts) (hv : v.Supported g starts) (hr : g.ReachedFrom starts r)
    (h : (runOne g docs config v r).1.value = .ok schema) : Makes g docs config r schema := by
  refine ⟨?_, schema_of_value_runOne h⟩
  rw [value_runOne] at h
  cases hvalid : (v.validate g r).1.result with
  | error e =>
    rw [hvalid] at h
    cases h
  | ok => exact hv.sound_of_accepted hfaithful hr hvalid

/-! ### The batch -/

/-- A run goes on with the validator and the outcome that the first root left. -/
theorem runFrom_cons {v : Validator} {outcome : BatchOutcome} {r : Ref} {rest : List Ref} :
    (runFrom g docs config v outcome (r :: rest)).value =
      (runFrom g docs config (v.validate g r).2
        (outcome.record (g.identity r) (runOne g docs config v r).1.value).value rest).value := rfl

/-- Failures are kept to the end. -/
theorem failures_subset_runFrom {v : Validator} {outcome : BatchOutcome} {rest : List Ref} :
    outcome.failures ⊆ (runFrom g docs config v outcome rest).value.failures := by
  induction rest generalizing v outcome with
  | nil => exact List.Subset.refl _
  | cons r rest ih =>
    rw [runFrom_cons]
    refine List.Subset.trans ?_ ih
    cases (runOne g docs config v r).1.value with
    | ok schema => exact List.Subset.refl _
    | error failure => exact List.subset_append_left _ _

/-- The first type of a batch without failures succeeds. -/
theorem exists_of_failures_eq_nil {v : Validator} {outcome : BatchOutcome} {r : Ref}
    {rest : List Ref} (h : (runFrom g docs config v outcome (r :: rest)).value.failures = []) :
    ∃ schema, (runOne g docs config v r).1.value = .ok schema := by
  rw [runFrom_cons] at h
  cases hvalue : (runOne g docs config v r).1.value with
  | ok schema => exact ⟨schema, rfl⟩
  | error failure =>
    rw [hvalue] at h
    have hkept : (g.identity r, failure) ∈ ([] : List (String × Failure)) := by
      rw [← h]
      exact failures_subset_runFrom (List.mem_append_right _ (List.mem_singleton_self _))
    exact absurd hkept List.not_mem_nil

/-- **In a batch without failures** every type succeeds by itself. -/
theorem makes_of_failures_eq_nil {v : Validator} {outcome : BatchOutcome} {rest : List Ref}
    (hfaithful : g.Faithful starts) (hv : v.Supported g starts)
    (hrest : ∀ r ∈ rest, g.ReachedFrom starts r)
    (h : (runFrom g docs config v outcome rest).value.failures = []) :
    ∀ r ∈ rest, ∃ schema, Makes g docs config r schema := by
  induction rest generalizing v outcome with
  | nil => exact fun _ hr => absurd hr List.not_mem_nil
  | cons r rest ih =>
    have hr : g.ReachedFrom starts r := hrest r List.mem_cons_self
    have hbelow : ∀ s ∈ rest, g.ReachedFrom starts s := fun s hs =>
      hrest s (List.mem_cons_of_mem _ hs)
    obtain ⟨schema, hschema⟩ := exists_of_failures_eq_nil h
    rw [runFrom_cons] at h
    intro s hs
    rcases List.mem_cons.1 hs with rfl | hs
    · exact ⟨schema, makes_of_value_runOne hfaithful hv hr hschema⟩
    · exact ih (hv.validate hr) hbelow h s hs

/-- A batch of types that succeed by themselves adds no failure. -/
theorem failures_runFrom_of_makes {v : Validator} {outcome : BatchOutcome} {rest : List Ref}
    (h : ∀ r ∈ rest, ∃ schema, Makes g docs config r schema) :
    (runFrom g docs config v outcome rest).value.failures = outcome.failures := by
  induction rest generalizing v outcome with
  | nil => rfl
  | cons r rest ih =>
    obtain ⟨schema, hschema⟩ := h r List.mem_cons_self
    rw [runFrom_cons, value_runOne_of_makes hschema,
      ih fun s hs => h s (List.mem_cons_of_mem _ hs)]
    rfl

/-- Under an identity for which one schema is made, that schema stands at the end: it stood there
before, or a type of the identity was still to come. -/
theorem get?_runFrom_of_makes {v : Validator} {outcome : BatchOutcome} {rest : List Ref}
    {identity : String} {schema : Schema} (h : ∀ r ∈ rest, ∃ made, Makes g docs config r made)
    (hone : ∀ r ∈ rest, g.identity r = identity → Makes g docs config r schema)
    (hsome : outcome.schemas.get? identity = some schema ∨ ∃ r ∈ rest, g.identity r = identity) :
    (runFrom g docs config v outcome rest).value.schemas.get? identity = some schema := by
  induction rest generalizing v outcome with
  | nil => exact hsome.resolve_right fun ⟨r, hr, _⟩ => absurd hr List.not_mem_nil
  | cons r rest ih =>
    have hbelow : ∀ s ∈ rest, ∃ made, Makes g docs config s made := fun s hs =>
      h s (List.mem_cons_of_mem _ hs)
    have honebelow : ∀ s ∈ rest, g.identity s = identity → Makes g docs config s schema :=
      fun s hs => hone s (List.mem_cons_of_mem _ hs)
    rw [runFrom_cons]
    by_cases hid : g.identity r = identity
    · rw [value_runOne_of_makes (hone r List.mem_cons_self hid)]
      refine ih hbelow honebelow (.inl ?_)
      show (outcome.schemas.insert (g.identity r) schema).get? identity = some schema
      rw [hid]
      exact OrderedMap.get?_insert_self _ _
    · obtain ⟨made, hmade⟩ := h r List.mem_cons_self
      rw [value_runOne_of_makes hmade]
      refine ih hbelow honebelow (hsome.imp (fun hget => ?_) ?_)
      · show (outcome.schemas.insert (g.identity r) made).get? identity = some schema
        rw [OrderedMap.get?_insert_of_ne (Ne.symm hid), hget]
      · rintro ⟨s, hs, hsid⟩
        rcases List.mem_cons.1 hs with rfl | hs
        · exact absurd hsid hid
        · exact ⟨s, hs, hsid⟩

end TypeSchema.Batch
