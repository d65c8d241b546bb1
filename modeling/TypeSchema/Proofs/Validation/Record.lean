import TypeSchema.Proofs.Validation.Transparency

/-!
# What a validator records

The state of a validator between calls, exactly. It holds verdicts and nothing else, and the verdicts
are those on the types below the accepted ones: a call that refuses a type adds nothing, however far
it came, and a call that accepts a type adds every type below it at once, plain values excepted.

* `Supported.mem_validated_iff` is one call that accepts; one that refuses is `after_visit_of_error`.
* `Supported.mem_validateAll_iff` is a run, by induction on the calls.
* `record_of_calls` puts them together.
-/

namespace TypeSchema

/-- Is it the identity of a type below the given one that is no plain value? -/
def Graph.CompoundBelow {Ref : Type} (g : Graph Ref) (r : Ref) (id : String) : Prop :=
  ∃ s, g.Reaches r s ∧ ¬ g.Plain s ∧ g.identity s = id

namespace Validator

variable {Ref : Type} {g : Graph Ref} {family : List Ref} {v : Validator}

/-- Was the type among those that a run accepted? -/
def Accepted (g : Graph Ref) (v : Validator) (calls : List Ref) (r : Ref) : Prop :=
  ∃ verdict, (r, verdict) ∈ calls.zip (validateAll g v calls).1 ∧ verdict.result = .ok ()

/-- Nothing is accepted before the first call. -/
@[simp] theorem not_accepted_nil {r : Ref} : ¬ Accepted g v [] r := by
  rintro ⟨verdict, hmem, -⟩
  exact List.not_mem_nil hmem

/-- A run accepts what its first call accepts and what the rest of it accepts. -/
theorem accepted_cons_iff {r s : Ref} {rest : List Ref} :
    Accepted g v (r :: rest) s ↔
      (s = r ∧ (v.validate g r).1.result = .ok ()) ∨ Accepted g (v.validate g r).2 rest s := by
  have hzip : (r :: rest).zip (validateAll g v (r :: rest)).1 =
      (r, (v.validate g r).1) :: rest.zip (validateAll g (v.validate g r).2 rest).1 := rfl
  unfold Accepted
  rw [hzip]
  constructor
  · rintro ⟨verdict, hmem, hok⟩
    rcases List.mem_cons.1 hmem with hfirst | hmem
    · cases hfirst
      exact .inl ⟨rfl, hok⟩
    · exact .inr ⟨verdict, hmem, hok⟩
  · rintro (⟨rfl, hok⟩ | ⟨verdict, hmem, hok⟩)
    · exact ⟨_, List.mem_cons_self, hok⟩
    · exact ⟨verdict, List.mem_cons_of_mem _ hmem, hok⟩

/-! ### One call -/

/-- **A call that accepts a type** adds the identities of the types below it, and no others. -/
theorem Supported.mem_validated_iff (h : v.Supported g family) (hcoherent : g.Coherent family)
    {r : Ref} (hr : g.ReachedFrom family r) (hok : (v.validate g r).1.result = .ok ())
    {id : String} :
    id ∈ (v.validate g r).2.validated ↔ id ∈ v.validated ∨ g.CompoundBelow r id := by
  have hidle : (v.validate g r).2.Idle := (h.validate hr).idle
  constructor
  · intro hid
    refine ((learns_visit hok).backed id (hidle.knows_iff.2 hid)).imp h.idle.knows_iff.1 ?_
    rintro ⟨s, ⟨root, hroot, hs⟩, hplain, hs_id, -⟩
    rw [List.mem_singleton.1 hroot] at hs
    exact ⟨s, hs, hplain, hs_id⟩
  · rintro (hid | ⟨s, hs, hplain, rfl⟩)
    · exact hidle.knows_iff.1 ((visit g v r).knows hok id (h.idle.knows_iff.2 hid))
    · have hsettled : g.Settles (· ∈ (v.validate g r).2.validated) s :=
        settles_of_reaches hcoherent (h.validate hr).backed hr (settles_of_accepted h.idle hok) hs
      exact hsettled.resolve_left hplain

/-- A plain value is accepted and leaves no trace. -/
theorem validate_of_plain {r : Ref} (h : g.Plain r) : (v.validate g r).2 = v := by
  show (visit g v r).after = v
  rw [visit_of_plain h]
  rfl

/-! ### A run -/

/-- **A run** adds the identities of the types below those that it accepts, and no others. -/
theorem Supported.mem_validateAll_iff (h : v.Supported g family) (hcoherent : g.Coherent family)
    {calls : List Ref} (hcalls : ∀ r ∈ calls, g.ReachedFrom family r) {id : String} :
    id ∈ (validateAll g v calls).2.validated ↔
      id ∈ v.validated ∨ ∃ root, Accepted g v calls root ∧ g.CompoundBelow root id := by
  induction calls generalizing v with
  | nil =>
    refine ⟨.inl, fun hid => hid.resolve_right ?_⟩
    rintro ⟨root, haccepted, -⟩
    exact not_accepted_nil haccepted
  | cons r rest ih =>
    have hr : g.ReachedFrom family r := hcalls r List.mem_cons_self
    have hrest := ih (h.validate hr) fun s hs => hcalls s (List.mem_cons_of_mem _ hs)
    have hfirst : id ∈ (v.validate g r).2.validated ↔ id ∈ v.validated ∨
        (v.validate g r).1.result = .ok () ∧ g.CompoundBelow r id := by
      cases hresult : (v.validate g r).1.result with
      | ok =>
        rw [h.mem_validated_iff hcoherent hr hresult]
        simp
      | error e =>
        have hafter : (v.validate g r).2 = v := after_visit_of_error h.idle hresult
        rw [hafter]
        simp
    show id ∈ (validateAll g (v.validate g r).2 rest).2.validated ↔ _
    rw [hrest, hfirst, or_assoc]
    refine or_congr_right ⟨?_, ?_⟩
    · rintro (⟨hok, hbelow⟩ | ⟨root, haccepted, hbelow⟩)
      · exact ⟨r, accepted_cons_iff.2 (.inl ⟨rfl, hok⟩), hbelow⟩
      · exact ⟨root, accepted_cons_iff.2 (.inr haccepted), hbelow⟩
    · rintro ⟨root, haccepted, hbelow⟩
      rcases accepted_cons_iff.1 haccepted with ⟨rfl, hok⟩ | haccepted
      · exact .inl ⟨hok, hbelow⟩
      · exact .inr ⟨root, haccepted, hbelow⟩

/-- **The record of a run over a coherent family.** After any calls, nothing is half done, and an
identity is found valid if and only if it is that of a type, no plain value, below one that was
accepted. The next call changes nothing if it refuses its type or if the type is a plain value, and
if it accepts the type it adds the identities of the types below, plain values excepted. -/
theorem record_of_calls (hcoherent : g.Coherent family) {calls : List Ref}
    (hcalls : ∀ r ∈ calls, g.ReachedFrom family r) :
    let v := (validateAll g new calls).2
    (v.visiting = [] ∧ v.pending = []) ∧
      (∀ id, v.isValidated id = true ↔
        ∃ root, Accepted g new calls root ∧ g.CompoundBelow root id) ∧
      ∀ r, g.ReachedFrom family r →
        (∀ e, (v.validate g r).1.result = .error e → (v.validate g r).2 = v) ∧
          ((v.validate g r).1.result = .ok () → ∀ id,
            id ∈ (v.validate g r).2.validated ↔ id ∈ v.validated ∨ g.CompoundBelow r id) ∧
          (g.Plain r → (v.validate g r).2 = v) := by
  intro v
  have hv : v.Supported g family := supported_validateAll supported_new hcalls
  refine ⟨⟨hv.idle.visiting, hv.idle.pending⟩, fun id => ?_, fun r hr => ⟨fun e herror => ?_,
    fun hok id => hv.mem_validated_iff hcoherent hr hok, validate_of_plain⟩⟩
  · have hnew : id ∉ new.validated := List.not_mem_nil
    rw [isValidated, decide_eq_true_eq, supported_new.mem_validateAll_iff hcoherent hcalls]
    exact or_iff_right hnew
  · exact after_visit_of_error hv.idle herror

/-- In the family with a cycle, the visit is refused after the child was walked. The walk does not
show; then the child is accepted, and the parent is found valid with it. -/
theorem record_of_calls_family :
    (validateAll Graph.family new [4, 2]).2.pending = [] ∧
      (validateAll Graph.family new [4, 2]).2.isValidated "Parent" = true ∧
      (∃ root, Accepted Graph.family new [4, 2] root ∧
        Graph.family.CompoundBelow root "Parent") ∧
      ((validateAll Graph.family new [4, 2]).2.validate Graph.family 4).2 =
        (validateAll Graph.family new [4, 2]).2 := by
  have hcalls : ∀ r ∈ [4, 2], Graph.family.ReachedFrom [4, 2] r := fun _ =>
    Graph.reachedFrom_of_mem
  obtain ⟨⟨-, hpending⟩, hvalidated, hnext⟩ :=
    record_of_calls (Graph.coherent_family [4, 2]) hcalls
  have hparent : (validateAll Graph.family new [4, 2]).2.isValidated "Parent" = true := by cbv
  refine ⟨hpending, hparent, (hvalidated "Parent").1 hparent, ?_⟩
  exact (hnext 4 (Graph.reachedFrom_of_mem (by decide))).1 ⟨.unresolved "Uuid", ["Visit.id"]⟩
    (by cbv)

end Validator

end TypeSchema
