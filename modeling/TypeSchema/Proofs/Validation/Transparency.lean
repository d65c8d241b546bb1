import TypeSchema.Proofs.Validation.History

/-!
# What a validator remembers does not show

Two walks to the same type, one by a validator that remembers earlier verdicts and one by a validator
that does not, go through the same types in the same order, except that the first passes over types
that it has found valid. The second walks these too, to no effect: they are sound, so it meets no
defect there, and all it learns there the first one knows already. Hence the same defect is met first,
and on the same way.

`agrees_walk` is the simulation of the two walks, by induction along the one that remembers nothing,
and `Supported.validate_eq` its consequence for a call.
-/

namespace TypeSchema.Validator

variable {Ref : Type} {g : Graph Ref} {roots : List Ref} {K : String → Prop}

/-- Does one validator know what the other one knows, and the identities in `K` besides? -/
def Ahead (K : String → Prop) (a b : Validator) : Prop := ∀ id, a.Knows id ↔ b.Knows id ∨ K id

/-- Who is ahead stays ahead inside a type. -/
theorem Ahead.enter {a b : Validator} (h : Ahead K a b) (identity : String) :
    Ahead K (a.enter identity) (b.enter identity) := by
  intro id
  rw [knows_enter_iff, knows_enter_iff, h id, or_assoc]

/-- Two walks that come to the same: the same result, the same events and, if they succeed, the one
validator still ahead of the other by the same identities. -/
structure Agrees (K : String → Prop) {a b : Validator} (x : Visit a) (y : Visit b) : Prop where
  /-- The same result. -/
  result : x.result = y.result
  /-- The same events. -/
  events : x.events = y.events
  /-- The same distance. -/
  ahead : y.result = .ok () → Ahead K x.after y.after

/-- Where nothing is done, nothing is done differently. -/
theorem agrees_nothing {a b : Validator} (h : Ahead K a b) : Agrees K (.nothing a) (.nothing b) :=
  ⟨rfl, rfl, fun _ => h⟩

/-- Walks that agree on the parts of a type agree on the type. -/
theorem Agrees.leave {a b : Validator} {identity : String} {x : Visit (a.enter identity)}
    {y : Visit (b.enter identity)} (h : Agrees K x y) :
    Agrees K (x.leave identity) (y.leave identity) := by
  have hresult : (x.leave identity).result = (y.leave identity).result := by
    rw [Visit.result_leave, Visit.result_leave, h.result]
  cases hy : y.result with
  | ok =>
    have hx : x.result = .ok () := h.result.trans hy
    refine ⟨hresult, ?_, fun _ id => ?_⟩
    · rw [Visit.events_leave_of_ok hx, Visit.events_leave_of_ok hy, h.events]
    · rw [Visit.knows_after_leave_iff hx, Visit.knows_after_leave_iff hy]
      exact h.ahead hy id
  | error e =>
    have hx : x.result = .error e := h.result.trans hy
    refine ⟨hresult, ?_, fun hok => ?_⟩
    · rw [Visit.events_leave_of_error hx, Visit.events_leave_of_error hy, h.events]
    · rw [Visit.result_leave, hy] at hok
      cases hok

/-- In a coherent family, whatever is below a settled type is settled. -/
theorem settles_of_reaches (hcoherent : g.Coherent roots)
    (hbacked : ∀ id, K id → g.Backed (g.ReachedFrom roots) K id) {r s : Ref}
    (hr : g.ReachedFrom roots r) (hsettled : g.Settles K r) (hrs : g.Reaches r s) :
    g.Settles K s := by
  induction hrs with
  | refl => exact hsettled
  | @tail s t hs ht ih =>
    exact Graph.settles_parts_of_settles hcoherent hbacked (hr.trans hs) ih t ht

/-- The walk to a type that the other validator has found valid already: it succeeds, and what it
learns is nothing new to the other. -/
theorem agrees_visit_of_settled (hcoherent : g.Coherent roots)
    (hbacked : ∀ id, K id → g.Backed (g.ReachedFrom roots) K id) {a b : Validator}
    (hahead : Ahead K a b) {r : Ref} (hr : g.ReachedFrom roots r) (hid : K (g.identity r)) :
    Agrees K (visit g a r) (visit g b r) := by
  have hsound : g.Sound r :=
    Graph.sound_of_settles hcoherent.faithful hbacked hr (.inr hid)
  have hok : (visit g b r).result = .ok () := visit_of_sound hsound
  have hfresh : ∀ id, (visit g b r).after.Knows id → b.Knows id ∨ K id := by
    intro id hknows
    refine ((learns_visit hok).backed id hknows).imp_right ?_
    rintro ⟨s, ⟨root, hroot, hs⟩, hplain, rfl, -⟩
    rw [List.mem_singleton.1 hroot] at hs
    exact (settles_of_reaches hcoherent hbacked hr (.inr hid) hs).resolve_left hplain
  rw [visit_of_knows (v := a) ((hahead _).2 (.inr hid))]
  refine ⟨hok.symm, (events_visit_of_ok hok).symm, fun _ id => ?_⟩
  show a.Knows id ↔ _
  rw [hahead id]
  refine ⟨fun h => h.imp_left ((visit g b r).knows hok id), fun h => ?_⟩
  rcases h with hknows | hid
  · exact hfresh id hknows
  · exact .inr hid

/-- **The simulation.** A validator that is ahead by identities that support themselves walks as the
other one does. -/
theorem agrees_walk (hcoherent : g.Coherent roots)
    (hbacked : ∀ id, K id → g.Backed (g.ReachedFrom roots) K id) :
    (∀ b r, g.ReachedFrom roots r → ∀ a, Ahead K a b → Agrees K (visit g a r) (visit g b r)) ∧
      ∀ b ways, (∀ way ∈ ways, g.ReachedFrom roots way.2) → ∀ a, Ahead K a b →
        Agrees K (visitAll g a ways) (visitAll g b ways) := by
  refine walk_induction
    (P := fun b r walk => g.ReachedFrom roots r → ∀ a, Ahead K a b → Agrees K (visit g a r) walk)
    (Q := fun b ways walk => (∀ way ∈ ways, g.ReachedFrom roots way.2) → ∀ a, Ahead K a b →
      Agrees K (visitAll g a ways) walk)
    ?plain ?known ?defect ?parts ?nil ?stop ?next
  case plain =>
    intro b r hplain _ a hahead
    rw [visit_of_plain hplain]
    exact agrees_nothing hahead
  case known =>
    intro b r _ hknows _ a hahead
    rw [visit_of_knows ((hahead _).2 (.inl hknows))]
    exact agrees_nothing hahead
  case defect =>
    intro b r d hplain hknows hsteps hr a hahead
    -- A type found valid has no defect, so the other validator does not know it either.
    have hid : ¬ K (g.identity r) := fun hid =>
      Graph.not_wellFormed_of_steps_eq_error hsteps
        (Graph.sound_of_settles hcoherent.faithful hbacked hr (.inr hid)).wellFormed
    have hknows' : ¬ a.Knows (g.identity r) := fun h => ((hahead _).1 h).elim hknows hid
    rw [visit_of_defect hplain hknows' hsteps]
    exact Agrees.leave ⟨rfl, rfl, fun h => nomatch h⟩
  case parts =>
    intro b r ways hplain hknows hsteps ih hr a hahead
    by_cases hid : K (g.identity r)
    · rw [← visit_of_steps hplain hknows hsteps]
      exact agrees_visit_of_settled hcoherent hbacked hahead hr hid
    · have hknows' : ¬ a.Knows (g.identity r) := fun h => ((hahead _).1 h).elim hknows hid
      have hways : ∀ way ∈ ways, g.ReachedFrom roots way.2 := by
        intro way hway
        refine hr.trans (Graph.Reaches.of_mem_parts ?_)
        rw [← (Graph.steps_eq_ok hsteps).2]
        exact List.mem_map_of_mem hway
      rw [visit_of_steps hplain hknows' hsteps]
      exact (ih hways _ (hahead.enter _)).leave
  case nil =>
    intro b _ a hahead
    rw [visitAll_nil]
    exact agrees_nothing hahead
  case stop =>
    intro b segment r rest e herror ih hways a hahead
    have hfirst := ih (hways _ List.mem_cons_self) a hahead
    rw [visitAll_cons_of_error (hfirst.result.trans herror)]
    exact ⟨rfl, hfirst.events, fun h => nomatch h⟩
  case next =>
    intro b segment r rest hok ih ihrest hways a hahead
    have hfirst := ih (hways _ List.mem_cons_self) a hahead
    have hothers := ihrest (fun way hway => hways way (List.mem_cons_of_mem _ hway)) _
      (hfirst.ahead hok)
    rw [visitAll_cons_of_ok (hfirst.result.trans hok)]
    refine ⟨hothers.result, ?_, hothers.ahead⟩
    show _ ++ _ = _ ++ _
    rw [hfirst.events, hothers.events]

/-- **A call with a history gives what a call without one gives.** -/
theorem Supported.validate_eq {v : Validator} (h : v.Supported g roots)
    (hcoherent : g.Coherent roots) {r : Ref} (hr : g.ReachedFrom roots r) :
    (v.validate g r).1 = g.validate r := by
  have hahead : Ahead (· ∈ v.validated) v new := by
    intro id
    rw [h.idle.knows_iff, idle_new.knows_iff]
    simp [new]
  have hagrees := (agrees_walk hcoherent h.backed).1 new r hr v hahead
  show ExceptT.mk (Logged.mk _ _) = ExceptT.mk (Logged.mk _ _)
  rw [hagrees.result, hagrees.events]

/-- **The verdicts of a run are those on the types by themselves**, with the same defect and the same
way to it, whatever was accepted or refused before. -/
theorem verdicts_eq_map_validate (h : g.Coherent roots) :
    (validateAll g new roots).1 = roots.map g.validate := by
  have hrun : ∀ (calls : List Ref) (v : Validator), v.Supported g roots →
      (∀ r ∈ calls, g.ReachedFrom roots r) → (validateAll g v calls).1 = calls.map g.validate := by
    intro calls
    induction calls with
    | nil => exact fun _ _ _ => rfl
    | cons r rest ih =>
      intro v hv hcalls
      have hr : g.ReachedFrom roots r := hcalls r List.mem_cons_self
      show (v.validate g r).1 :: (validateAll g (v.validate g r).2 rest).1 = _
      rw [hv.validate_eq h hr, List.map_cons,
        ih _ (hv.validate hr) fun s hs => hcalls s (List.mem_cons_of_mem _ hs)]
  exact hrun roots new supported_new fun r hr => Graph.reachedFrom_of_mem hr

/-- In the family with a cycle: the visit is refused both times, and that it went through a child
before it failed does not show when the child and the parent are asked for. -/
theorem verdicts_family :
    (validateAll Graph.family new [4, 2, 4, 0]).1 = [4, 2, 4, 0].map Graph.family.validate ∧
      (Graph.family.validate 4).result = .error ⟨.unresolved "Uuid", ["Visit.id"]⟩ :=
  ⟨verdicts_eq_map_validate (Graph.coherent_family [4, 2, 4, 0]), by cbv⟩

end TypeSchema.Validator
