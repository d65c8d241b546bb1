import TypeSchema.Proofs.Validation.Walk

/-!
# A validator with a history

A validator is used on one type after another, and remembers. The invariant of such a run is
`Supported`: between calls nothing is half done, and every identity that was found valid is that of a
well-formed type whose parts are plain or found valid too. One call keeps it (`Supported.validate`),
hence every run does (`supported_validateAll`). From it follows that an accepted type is sound
(`Supported.sound_of_accepted`), whatever was accepted or refused before, and, for a validator
without a history, the exact verdict (`Graph.validate_accepts_iff`).
-/

namespace TypeSchema

namespace Validator

variable {Ref : Type}

/-- Validates types one after another: the verdicts in order, and the validator after the last. -/
def validateAll (g : Graph Ref) (v : Validator) :
    List Ref → List (Attempt ValidationError Unit) × Validator
  | [] => ([], v)
  | r :: rest =>
    let (verdict, after) := v.validate g r
    let (verdicts, last) := validateAll g after rest
    (verdict :: verdicts, last)

variable {g : Graph Ref} {roots : List Ref} {v : Validator}

/-! ### The invariant of a run -/

/-- Is the validator between calls, and has every identity it found valid a reason among the types
below the roots? -/
structure Supported (g : Graph Ref) (roots : List Ref) (v : Validator) : Prop where
  /-- Nothing is half done. -/
  idle : v.Idle
  /-- Every verdict has a reason. -/
  backed : ∀ id, id ∈ v.validated → g.Backed (g.ReachedFrom roots) (· ∈ v.validated) id

/-- A new validator knows nothing that would need support. -/
@[simp]
theorem supported_new : Supported g roots new := ⟨idle_new, fun _ h => absurd h List.not_mem_nil⟩

/-- **One call keeps the invariant.** A call that fails changes nothing; one that succeeds adds
identities that its own walk has backed. -/
theorem Supported.validate (h : v.Supported g roots) {r : Ref} (hr : g.ReachedFrom roots r) :
    (v.validate g r).2.Supported g roots := by
  show (visit g v r).after.Supported g roots
  have hidle : (visit g v r).after.Idle := idle_visit h.idle r
  cases hresult : (visit g v r).result with
  | error e =>
    rw [after_visit_of_error h.idle hresult]
    exact h
  | ok =>
    have hknows : ∀ id, (visit g v r).after.Knows id → id ∈ (visit g v r).after.validated :=
      fun _ => hidle.knows_iff.1
    have hbelow : ∀ s, g.ReachedFrom [r] s → g.ReachedFrom roots s := by
      rintro s ⟨root, hroot, hs⟩
      rw [List.mem_singleton.1 hroot] at hs
      exact hr.trans hs
    refine ⟨hidle, fun id hid => ?_⟩
    rcases (learns_visit hresult).backed id (hidle.knows_iff.2 hid) with hbefore | hback
    · have hkept : ∀ other, other ∈ v.validated → other ∈ (visit g v r).after.validated :=
        fun other hother => hknows other ((visit g v r).knows hresult other (.inl hother))
      exact (h.backed id (h.idle.knows_iff.1 hbefore)).mono (fun _ hs => hs) hkept
    · exact hback.mono hbelow hknows

/-- **Every run keeps the invariant**, whatever the calls answered. -/
theorem supported_validateAll (h : v.Supported g roots) {calls : List Ref}
    (hcalls : ∀ r ∈ calls, g.ReachedFrom roots r) : (validateAll g v calls).2.Supported g roots := by
  induction calls generalizing v with
  | nil => exact h
  | cons r rest ih =>
    have hr : g.ReachedFrom roots r := hcalls r List.mem_cons_self
    exact ih (h.validate hr) fun s hs => hcalls s (List.mem_cons_of_mem _ hs)

/-! ### What a verdict means -/

/-- After a call that accepted a type, the type is settled. -/
theorem settles_of_accepted (hidle : v.Idle) {r : Ref}
    (hok : (v.validate g r).1.result = .ok ()) :
    g.Settles (· ∈ (v.validate g r).2.validated) r :=
  ((learns_visit hok).settled r (List.mem_singleton_self r)).mono fun _ =>
    (idle_visit hidle r).knows_iff.1

/-- **An accepted type is sound.** -/
theorem Supported.sound_of_accepted (h : v.Supported g roots) (hfaithful : g.Faithful roots)
    {r : Ref} (hr : g.ReachedFrom roots r) (hok : (v.validate g r).1.result = .ok ()) :
    g.Sound r :=
  Graph.sound_of_settles hfaithful (h.validate hr).backed hr (settles_of_accepted h.idle hok)

/-- In a faithful family the accepted types are the sound ones. -/
theorem Supported.accepts_iff (h : v.Supported g roots) (hfaithful : g.Faithful roots) {r : Ref}
    (hr : g.ReachedFrom roots r) : (v.validate g r).1.result = .ok () ↔ g.Sound r :=
  ⟨h.sound_of_accepted hfaithful hr, visit_of_sound⟩

end Validator

namespace Graph

open Validator

variable {Ref : Type} {g : Graph Ref}

/-- **Validation accepts a type if and only if every type below it is well formed**, through shared
types and cycles alike. -/
theorem validate_accepts_iff {r : Ref} (h : g.Coherent [r]) :
    (g.validate r).result = .ok () ↔ ∀ s, g.Reaches r s → g.WellFormed s :=
  supported_new.accepts_iff h.faithful (reachedFrom_of_mem (List.mem_singleton_self r))

/-- In the family with a cycle, everything below a parent is well formed, because the parent is
accepted; the visit is refused, because the type of its identifier is not. -/
theorem validate_accepts_parent_not_visit :
    (∀ s, family.Reaches 0 s → family.WellFormed s) ∧
      (family.validate 4).result ≠ .ok () := by
  refine ⟨(validate_accepts_iff (coherent_family [0])).1 (by cbv), fun haccepted => ?_⟩
  have hbelow := (validate_accepts_iff (coherent_family [4])).1 haccepted
  exact absurd (hbelow 5 (Reaches.of_mem_parts (by decide))) (by decide)

end Graph

end TypeSchema
