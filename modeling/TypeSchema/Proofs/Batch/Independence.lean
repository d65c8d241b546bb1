import TypeSchema.Proofs.Batch
import TypeSchema.Proofs.Validation.Transparency

/-!
# The types of a batch do not affect each other

All types of a batch go through one validator, which remembers. What it remembers does not show, and
so each type comes to what it comes to alone: its schema stands under its identity, or its failure
stands among the failures, both in the order of the types.

* `value_runOne_eq` is one type: what a validator with a history lets come of it is what comes of it
  alone.
* `runFrom_eq` is the batch, by induction on the types.
* `run_independent` says what follows for each type, and for two batches that it is in.
-/

namespace TypeSchema.Batch

open Attempt Validator

variable {Ref : Type} {g : Graph Ref} {docs : DocRegistry} {config : GeneratorConfig}
  {roots : List Ref}

/-- The entry of a type that has a schema by itself. -/
def schemaEntry (g : Graph Ref) (docs : DocRegistry) (config : GeneratorConfig) (r : Ref) :
    Option (String × Schema) :=
  match (g.generate docs config r).result with
  | .ok schema => some (g.identity r, schema)
  | .error _ => none

/-- The entry of a type that fails by itself. -/
def failureEntry (g : Graph Ref) (docs : DocRegistry) (config : GeneratorConfig) (r : Ref) :
    Option (String × Failure) :=
  match (g.generate docs config r).result with
  | .ok _ => none
  | .error failure => some (g.identity r, failure)

/-- A root has an entry with its identity and its schema, if it has one. -/
theorem schemaEntry_eq_some_iff {r : Ref} {identity : String} {schema : Schema} :
    schemaEntry g docs config r = some (identity, schema) ↔
      g.identity r = identity ∧ (g.generate docs config r).result = .ok schema := by
  unfold schemaEntry
  cases (g.generate docs config r).result <;> simp

/-- A root has a failure with its identity and its error, if it has one. -/
theorem failureEntry_eq_some_iff {r : Ref} {identity : String} {failure : Failure} :
    failureEntry g docs config r = some (identity, failure) ↔
      g.identity r = identity ∧ (g.generate docs config r).result = .error failure := by
  unfold failureEntry
  cases (g.generate docs config r).result <;> simp

/-! ### One type -/

/-- **What comes of a type in a batch** is what comes of it alone. -/
theorem value_runOne_eq {v : Validator} (hv : v.Supported g roots) (hcoherent : g.Coherent roots)
    {r : Ref} (hr : g.ReachedFrom roots r) :
    (runOne g docs config v r).1.value = (g.generate docs config r).result := by
  show Attempt.result (mapError Failure.validation (v.validate g r).1 >>= fun _ =>
    mapError Failure.schema (g.schema docs config r)) = _
  rw [hv.validate_eq hcoherent hr]
  rfl

/-! ### The batch -/

/-- **A batch records each type as it comes alone**, in order, behind what was recorded before. -/
theorem runFrom_eq {v : Validator} {outcome : BatchOutcome} {rest : List Ref}
    (hv : v.Supported g roots) (hcoherent : g.Coherent roots)
    (hrest : ∀ r ∈ rest, g.ReachedFrom roots r) (hdistinct : (rest.map g.identity).Nodup)
    (hnew : ∀ r ∈ rest, g.identity r ∉ outcome.schemas.keys) :
    (runFrom g docs config v outcome rest).value.schemas.entries =
        outcome.schemas.entries ++ rest.filterMap (schemaEntry g docs config) ∧
      (runFrom g docs config v outcome rest).value.failures =
        outcome.failures ++ rest.filterMap (failureEntry g docs config) := by
  induction rest generalizing v outcome with
  | nil => simp [runFrom, pure]
  | cons r rest ih =>
    obtain ⟨hother, hdistinct⟩ := List.nodup_cons.1 hdistinct
    have hr : g.ReachedFrom roots r := hrest r List.mem_cons_self
    have hafter : (v.validate g r).2.Supported g roots := hv.validate hr
    have hbelow : ∀ s ∈ rest, g.ReachedFrom roots s := fun s hs =>
      hrest s (List.mem_cons_of_mem _ hs)
    have hnew' : ∀ s ∈ rest, g.identity s ∉ outcome.schemas.keys := fun s hs =>
      hnew s (List.mem_cons_of_mem _ hs)
    have hstep : (runFrom g docs config v outcome (r :: rest)).value =
        (runFrom g docs config (v.validate g r).2
          (outcome.record (g.identity r) (g.generate docs config r).result).value rest).value := by
      rw [← value_runOne_eq hv hcoherent hr]
      rfl
    rw [hstep]
    cases hresult : (g.generate docs config r).result with
    | error failure =>
      have hfails : ∀ s ∈ rest, g.identity s ∉
          (outcome.addFailures [(g.identity r, failure)]).schemas.keys := hnew'
      obtain ⟨hschemas, hfailures⟩ := ih hafter hbelow hdistinct hfails
      refine ⟨hschemas.trans ?_, hfailures.trans ?_⟩
      · simp [schemaEntry, hresult, BatchOutcome.addFailures]
      · simp [failureEntry, hresult, BatchOutcome.addFailures]
    | ok schema =>
      let after : BatchOutcome :=
        { outcome with schemas := outcome.schemas.insert (g.identity r) schema }
      have hkeys : ∀ s ∈ rest, g.identity s ∉ after.schemas.keys := by
        intro s hs hmem
        rcases OrderedMap.mem_keys_insert_iff.1 hmem with heq | hmem
        · exact hother (heq ▸ List.mem_map_of_mem hs)
        · exact hnew' s hs hmem
      have hentries : after.schemas.entries =
          outcome.schemas.entries ++ [(g.identity r, schema)] :=
        putEntry_of_not_mem (hnew r List.mem_cons_self)
      obtain ⟨hschemas, hfailures⟩ := ih hafter hbelow hdistinct hkeys
      refine ⟨hschemas.trans ?_, hfailures.trans ?_⟩
      · simp [schemaEntry, hresult, hentries]
      · simp [failureEntry, hresult, after]

/-- A batch of different coherent types gives the schemas and failures of each, in turn. -/
theorem run_eq (hcoherent : g.Coherent roots) (hdistinct : (roots.map g.identity).Nodup) :
    (run g docs config roots).value.schemas.entries =
        roots.filterMap (schemaEntry g docs config) ∧
      (run g docs config roots).value.failures =
        roots.filterMap (failureEntry g docs config) := by
  have hnew : ∀ r ∈ roots, g.identity r ∉ ({} : BatchOutcome).schemas.keys := fun _ _ hmem =>
    List.not_mem_nil hmem
  exact runFrom_eq supported_new hcoherent (fun _ => Graph.reachedFrom_of_mem) hdistinct hnew

/-! ### Each type of a batch -/

/-- The schema under the identity of a type is the one it has alone. -/
theorem get?_run_eq_some_iff (hcoherent : g.Coherent roots)
    (hdistinct : (roots.map g.identity).Nodup) {r : Ref} (hr : r ∈ roots) {schema : Schema} :
    (run g docs config roots).value.schemas.get? (g.identity r) = some schema ↔
      (g.generate docs config r).result = .ok schema := by
  rw [OrderedMap.get?_eq_some_iff, (run_eq hcoherent hdistinct).1, List.mem_filterMap]
  constructor
  · rintro ⟨s, hs, hentry⟩
    obtain ⟨hid, hok⟩ := schemaEntry_eq_some_iff.1 hentry
    rwa [List.inj_on_of_nodup_map hdistinct hs hr hid] at hok
  · exact fun hok => ⟨r, hr, schemaEntry_eq_some_iff.2 ⟨rfl, hok⟩⟩

/-- The failure with the identity of a type is the one it has alone. -/
theorem mem_failures_run_iff (hcoherent : g.Coherent roots)
    (hdistinct : (roots.map g.identity).Nodup) {r : Ref} (hr : r ∈ roots) {failure : Failure} :
    (g.identity r, failure) ∈ (run g docs config roots).value.failures ↔
      (g.generate docs config r).result = .error failure := by
  rw [(run_eq hcoherent hdistinct).2, List.mem_filterMap]
  constructor
  · rintro ⟨s, hs, hentry⟩
    obtain ⟨hid, herror⟩ := failureEntry_eq_some_iff.1 hentry
    rwa [List.inj_on_of_nodup_map hdistinct hs hr hid] at herror
  · exact fun herror => ⟨r, hr, failureEntry_eq_some_iff.2 ⟨rfl, herror⟩⟩

/-- **The types of a batch are independent.** In a coherent list of types with distinct identities,
the schemas and the failures are those of the types alone, each in the order of the types. Each type
has either a schema or a failure, and in another such list that it is in, it has the same. -/
theorem run_independent (docs : DocRegistry) (config : GeneratorConfig)
    (hcoherent : g.Coherent roots) (hdistinct : (roots.map g.identity).Nodup) :
    let outcome := (run g docs config roots).value
    (outcome.schemas.entries = roots.filterMap (schemaEntry g docs config) ∧
        outcome.failures = roots.filterMap (failureEntry g docs config)) ∧
      (∀ r ∈ roots,
        (outcome.schemas.contains (g.identity r) = true ↔
          g.identity r ∉ outcome.failures.map Prod.fst) ∧
        (∀ schema, outcome.schemas.get? (g.identity r) = some schema ↔
          (g.generate docs config r).result = .ok schema) ∧
        ∀ failure, (g.identity r, failure) ∈ outcome.failures ↔
          (g.generate docs config r).result = .error failure) ∧
      ∀ others, g.Coherent others → (others.map g.identity).Nodup → ∀ r ∈ roots, r ∈ others →
        let other := (run g docs config others).value
        other.schemas.get? (g.identity r) = outcome.schemas.get? (g.identity r) ∧
          ∀ failure, (g.identity r, failure) ∈ other.failures ↔
            (g.identity r, failure) ∈ outcome.failures := by
  intro outcome
  refine ⟨run_eq hcoherent hdistinct, fun r hr => ⟨?_, fun schema =>
    get?_run_eq_some_iff hcoherent hdistinct hr, fun failure =>
    mem_failures_run_iff hcoherent hdistinct hr⟩, ?_⟩
  · have hschema : outcome.schemas.contains (g.identity r) = true ↔
        ∃ schema, (g.generate docs config r).result = .ok schema := by
      rw [OrderedMap.contains, Option.isSome_iff_exists]
      exact exists_congr fun schema => get?_run_eq_some_iff hcoherent hdistinct hr
    have hfailure : g.identity r ∈ outcome.failures.map Prod.fst ↔
        ∃ failure, (g.generate docs config r).result = .error failure := by
      rw [List.mem_map]
      constructor
      · rintro ⟨⟨identity, failure⟩, hmem, rfl⟩
        exact ⟨failure, (mem_failures_run_iff hcoherent hdistinct hr).1 hmem⟩
      · rintro ⟨failure, herror⟩
        exact ⟨_, (mem_failures_run_iff hcoherent hdistinct hr).2 herror, rfl⟩
    rw [hschema, hfailure]
    cases (g.generate docs config r).result <;> simp
  · intro others hcoherent' hdistinct' r hr hr' other
    refine ⟨Option.ext fun schema => ?_, fun failure => ?_⟩
    · rw [get?_run_eq_some_iff hcoherent' hdistinct' hr',
        get?_run_eq_some_iff hcoherent hdistinct hr]
    · rw [mem_failures_run_iff hcoherent' hdistinct' hr',
        mem_failures_run_iff hcoherent hdistinct hr]

/-! ### A type that fails and a part of it -/

/-- Accounts have an owner, and an identifier of which only the name is known. -/
def accountNode : Fin 4 → Node (Fin 4)
  | 0 => { identity := "Account", kind := .object, eligible := true,
           elements := [⟨"owner", false, 1⟩, ⟨"id", false, 3⟩] }
  | 1 => { identity := "Person", kind := .object, eligible := true,
           elements := [⟨"name", false, 2⟩] }
  | 2 => .primitive .string
  | 3 => .contextual "Uuid"

/-- The graph of these types. -/
def account : Graph (Fin 4) := ⟨List.finRange 4, List.mem_finRange, accountNode⟩

/-- What is said of a person. -/
def personSchema : Schema := .object none (some [("name", .anyString)]) ["name"] none

/-- An account fails after its owner was walked. The owner comes to the same before it, after it and
without it. -/
theorem run_independent_account :
    (run account .empty {} [0, 1]).value.failures =
        [("Account", .validation ⟨.unresolved "Uuid", ["Account.id"]⟩)] ∧
      (run account .empty {} [0, 1]).value.schemas.get? "Person" = some personSchema ∧
      (run account .empty {} [1, 0]).value.schemas.get? "Person" = some personSchema ∧
      (run account .empty {} [1]).value.schemas.get? "Person" = some personSchema := by
  have hcoherent : ∀ roots, account.Coherent roots := Graph.coherent_of_forall (by decide)
  obtain ⟨⟨-, hfailures⟩, hroots, hothers⟩ :=
    run_independent .empty {} (hcoherent [0, 1]) (by decide)
  have hperson : (account.generate .empty {} 1).result = .ok personSchema := by cbv
  have hgot : (run account .empty {} [0, 1]).value.schemas.get? "Person" = some personSchema :=
    ((hroots 1 (by decide)).2.1 personSchema).2 hperson
  refine ⟨hfailures.trans (by cbv), hgot, ?_, ?_⟩
  · exact (hothers [1, 0] (hcoherent _) (by decide) 1 (by decide) (by decide)).1.trans hgot
  · exact (hothers [1] (hcoherent _) (by decide) 1 (by decide) (by decide)).1.trans hgot

end TypeSchema.Batch
