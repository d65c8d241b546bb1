import TypeSchema.Batch
import TypeSchema.Proofs.Generation.Safety
import TypeSchema.Proofs.OrderedMap

/-!
# Batches

A batch validates each type before it generates the schema, and it uses one validator for all of
them. What comes of it is `Lawful` if only sound types have a schema and no failure is one that
validation should have come first with. In a faithful family one type keeps this
(`lawful_record_runOne`), hence the whole batch does (`lawful_runFrom`), in whatever order the types
come and whichever of them fail.
-/

namespace TypeSchema

/-- Does the error say that generation met what validation refuses? -/
def SchemaError.Internal : SchemaError → Prop
  | unsupportedKind _ | notEligible _ | malformed _ _ _ => True
  | recursiveType _ | depthExceeded _ _ => False

/-- Does the failure say that generation met what validation refuses? -/
def Failure.Internal : Failure → Prop
  | schema e => e.Internal
  | validation _ | doc _ => False

variable {Ref : Type} {g : Graph Ref} {starts : List Ref}

/-- Has every schema that came of a batch a sound type, and is no failure internal? -/
structure BatchOutcome.Lawful (g : Graph Ref) (starts : List Ref) (outcome : BatchOutcome) :
    Prop where
  /-- Only sound types have a schema. -/
  sound : ∀ identity, outcome.schemas.contains identity = true →
    ∃ r ∈ starts, g.identity r = identity ∧ g.Sound r
  /-- No failure is internal. -/
  external : ∀ failure ∈ outcome.failures, ¬ failure.2.Internal

namespace BatchOutcome

/-- An outcome without entries is lawful. -/
theorem lawful_empty : Lawful g starts {} where
  sound _ h := nomatch h
  external _ h := absurd h List.not_mem_nil

/-- Failures that are not internal may be added. -/
theorem Lawful.addFailures {outcome : BatchOutcome} (h : outcome.Lawful g starts)
    {failures : List (String × Failure)} (hnew : ∀ failure ∈ failures, ¬ failure.2.Internal) :
    (outcome.addFailures failures).Lawful g starts := by
  refine ⟨h.sound, fun failure hmem => ?_⟩
  rcases List.mem_append.1 hmem with hold | hmem
  · exact h.external failure hold
  · exact hnew failure hmem

/-- The schema of a sound type may be recorded. -/
theorem Lawful.record_ok {outcome : BatchOutcome} (h : outcome.Lawful g starts) {r : Ref}
    (hr : r ∈ starts) (hsound : g.Sound r) (schema : Schema) :
    (outcome.record (g.identity r) (.ok schema)).value.Lawful g starts := by
  refine ⟨fun identity hcontains => ?_, h.external⟩
  have hcontains' : (outcome.schemas.insert (g.identity r) schema).contains identity = true :=
    hcontains
  rcases OrderedMap.contains_insert_iff.1 hcontains' with rfl | hold
  · exact ⟨r, hr, rfl, hsound⟩
  · exact h.sound identity hold

/-- A failure that is not internal may be recorded. -/
theorem Lawful.record_error {outcome : BatchOutcome} (h : outcome.Lawful g starts)
    {identity : String} {failure : Failure} (hfailure : ¬ failure.Internal) :
    (outcome.record identity (.error failure)).value.Lawful g starts :=
  h.addFailures fun other hother => by
    rw [List.mem_singleton.1 hother]
    exact hfailure

end BatchOutcome

namespace Batch

open Attempt Validator

variable {docs : DocRegistry} {config : GeneratorConfig} {v : Validator} {r : Ref}

/-- What comes of one type is what comes of its validation and then of its generation. -/
theorem value_runOne : (runOne g docs config v r).1.value =
    match (v.validate g r).1.result with
    | .ok () => (g.schema docs config r).result.mapError .schema
    | .error e => .error (.validation e) := by
  show Attempt.result (mapError Failure.validation (v.validate g r).1 >>= fun _ =>
    mapError Failure.schema (g.schema docs config r)) = _
  rw [result_bind, result_mapError]
  cases (v.validate g r).1.result with
  | ok => exact result_mapError _ _
  | error e => rfl

/-- **One type of a faithful family**: its schema or its failure is lawful. -/
theorem lawful_record_runOne {outcome : BatchOutcome} (hfaithful : g.Faithful starts)
    (hv : v.Supported g starts) (h : outcome.Lawful g starts) (hr : r ∈ starts) :
    (outcome.record (g.identity r) (runOne g docs config v r).1.value).value.Lawful g starts := by
  rw [value_runOne]
  cases hvalid : (v.validate g r).1.result with
  | error e => exact h.record_error not_false
  | ok =>
    have hsound : g.Sound r := hv.sound_of_accepted hfaithful (Graph.reachedFrom_of_mem hr) hvalid
    cases hschema : (g.schema docs config r).result with
    | ok schema => exact h.record_ok hr hsound schema
    | error e =>
      refine h.record_error ?_
      rcases Graph.schema_eq_error_of_sound hsound hschema with ⟨id, rfl⟩ | ⟨id, rfl⟩
      · exact not_false
      · exact not_false

/-- **A batch of a faithful family is lawful**, whatever its order and whichever types fail. -/
theorem lawful_runFrom {outcome : BatchOutcome} {rest : List Ref} (hfaithful : g.Faithful starts)
    (hv : v.Supported g starts) (h : outcome.Lawful g starts) (hrest : rest ⊆ starts) :
    (runFrom g docs config v outcome rest).value.Lawful g starts := by
  induction rest generalizing v outcome with
  | nil => exact h
  | cons r rest ih =>
    have hr : r ∈ starts := hrest List.mem_cons_self
    exact ih (hv.validate (Graph.reachedFrom_of_mem hr))
      (lawful_record_runOne hfaithful hv h hr) (List.subset_of_cons_subset hrest)

/-- The outcome of every run is lawful. -/
theorem lawful_run (hfaithful : g.Faithful starts) :
    (run g docs config starts).value.Lawful g starts :=
  lawful_runFrom hfaithful supported_new BatchOutcome.lawful_empty (List.Subset.refl _)

end Batch

end TypeSchema
