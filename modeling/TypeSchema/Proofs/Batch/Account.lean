import TypeSchema.Proofs.Batch.Success

/-!
# What a batch accounts for

Nothing is asked of the types here, sound or not, nor of the validator that a batch begins with.

* `exists_of_get?_runFrom`: a schema is one that generation makes of a type of the batch.
* `accounted_runFrom`: every type of a batch has a schema or a failure.
* `exists_of_mem_failures_runFrom`: every failure is that of a type of the batch.
* `keys_runFrom`: if there are no failures, the schemas stand under the identities of all types.
-/

namespace TypeSchema

/-- Is a schema or a failure recorded for an identity? -/
def BatchOutcome.Accounts (outcome : BatchOutcome) (identity : String) : Prop :=
  outcome.schemas.contains identity = true ∨ identity ∈ outcome.failures.map Prod.fst

namespace Batch

open Attempt

variable {Ref : Type} {g : Graph Ref} {docs : DocRegistry} {config : GeneratorConfig}
  {v : Validator} {outcome : BatchOutcome} {r : Ref} {rest : List Ref} {identity : String}

/-! ### One type -/

/-- What is recorded of a type is its schema or its failure. -/
theorem accounts_record (outcome : BatchOutcome) (identity : String)
    (result : Except Failure Schema) :
    (outcome.record identity result).value.Accounts identity := by
  cases result with
  | ok schema => exact .inl (OrderedMap.contains_insert_iff.2 (.inl rfl))
  | error failure =>
    refine .inr (List.mem_map_of_mem (f := Prod.fst) (a := (identity, failure)) ?_)
    exact List.mem_append_right _ (List.mem_singleton_self _)

/-- What was recorded before stays. -/
theorem accounts_record_of_accounts (h : outcome.Accounts identity) (other : String)
    (result : Except Failure Schema) : (outcome.record other result).value.Accounts identity := by
  cases result with
  | ok schema => exact h.imp_left fun hschema => OrderedMap.contains_insert_iff.2 (.inr hschema)
  | error failure =>
    refine h.imp_right fun hfailure => ?_
    show identity ∈ (outcome.failures ++ [(other, failure)]).map Prod.fst
    rw [List.map_append]
    exact List.mem_append_left _ hfailure

/-! ### The batch -/

/-- **A schema** of a batch is one that generation makes of a type of its identity. -/
theorem exists_of_get?_runFrom {schema : Schema}
    (h : (runFrom g docs config v outcome rest).value.schemas.get? identity = some schema) :
    outcome.schemas.get? identity = some schema ∨
      ∃ r ∈ rest, g.identity r = identity ∧ (g.schema docs config r).result = .ok schema := by
  induction rest generalizing v outcome with
  | nil => exact .inl h
  | cons r rest ih =>
    rw [runFrom_cons] at h
    rcases ih h with hbefore | ⟨s, hs, hidentity, hschema⟩
    · cases hvalue : (runOne g docs config v r).1.value with
      | error failure =>
        rw [hvalue] at hbefore
        exact .inl hbefore
      | ok made =>
        rw [hvalue] at hbefore
        have hinsert : (outcome.schemas.insert (g.identity r) made).get? identity = some schema :=
          hbefore
        by_cases hid : identity = g.identity r
        · rw [hid, OrderedMap.get?_insert_self] at hinsert
          cases hinsert
          exact .inr ⟨r, List.mem_cons_self, hid.symm, schema_of_value_runOne hvalue⟩
        · rw [OrderedMap.get?_insert_of_ne hid] at hinsert
          exact .inl hinsert
    · exact .inr ⟨s, List.mem_cons_of_mem _ hs, hidentity, hschema⟩

/-- **Every type of a batch** has a schema or a failure at the end, and what was recorded before
stays. -/
theorem accounted_runFrom
    (h : outcome.Accounts identity ∨ ∃ r ∈ rest, g.identity r = identity) :
    (runFrom g docs config v outcome rest).value.Accounts identity := by
  induction rest generalizing v outcome with
  | nil => exact h.resolve_right fun ⟨r, hr, _⟩ => absurd hr List.not_mem_nil
  | cons r rest ih =>
    rw [runFrom_cons]
    refine ih ?_
    rcases h with hbefore | ⟨s, hs, rfl⟩
    · exact .inl (accounts_record_of_accounts hbefore _ _)
    · rcases List.mem_cons.1 hs with rfl | hs
      · exact .inl (accounts_record _ _ _)
      · exact .inr ⟨s, hs, rfl⟩

/-- **A failure** of a batch is that of one of its types. -/
theorem exists_of_mem_failures_runFrom {failure : String × Failure}
    (h : failure ∈ (runFrom g docs config v outcome rest).value.failures) :
    failure ∈ outcome.failures ∨ ∃ r ∈ rest, g.identity r = failure.1 := by
  induction rest generalizing v outcome with
  | nil => exact .inl h
  | cons r rest ih =>
    rw [runFrom_cons] at h
    rcases ih h with hbefore | ⟨s, hs, hidentity⟩
    · cases hvalue : (runOne g docs config v r).1.value with
      | ok schema =>
        rw [hvalue] at hbefore
        exact .inl hbefore
      | error e =>
        rw [hvalue] at hbefore
        rcases List.mem_append.1 hbefore with hbefore | hnew
        · exact .inl hbefore
        · obtain rfl := List.mem_singleton.1 hnew
          exact .inr ⟨r, List.mem_cons_self, rfl⟩
    · exact .inr ⟨s, List.mem_cons_of_mem _ hs, hidentity⟩

/-- **The keys of a batch without failures**: the identities of its types, each where first met. -/
theorem keys_runFrom (h : (runFrom g docs config v outcome rest).value.failures = []) :
    (runFrom g docs config v outcome rest).value.schemas.keys =
      (rest.map g.identity).foldl (fun keys identity => addName identity keys)
        outcome.schemas.keys := by
  induction rest generalizing v outcome with
  | nil => rfl
  | cons r rest ih =>
    obtain ⟨schema, hschema⟩ := exists_of_failures_eq_nil h
    rw [runFrom_cons, hschema] at h
    rw [runFrom_cons, hschema, ih h, List.map_cons, List.foldl_cons,
      ← OrderedMap.keys_insert outcome.schemas _ schema]
    rfl

end Batch

end TypeSchema
