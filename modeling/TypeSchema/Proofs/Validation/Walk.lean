import TypeSchema.Proofs.Descriptor.Coherence

/-!
# One walk of the validator

What a single walk does, whatever the validator knew before. `walk_induction` is the induction along
a walk, with one case for each way in which it goes on; everything else is an instance of it.

* `learns_visit`: after a walk that succeeded, the type it was sent to is settled, and every identity
  it added is backed by a well-formed type below that one.
* `exists_not_wellFormed_of_visit_eq_error`: a walk fails only at a type that is not well formed.
* `visiting_walk`: inside another type, a walk leaves the enclosing types and the earlier verdicts
  alone.
* `idle_visit` and `after_visit_of_error`: an outermost walk leaves nothing half done, and one that
  fails leaves no trace.
-/

namespace TypeSchema

namespace Validator

/-! ### Entering and leaving -/

/-- Leaving a type takes it off the types around it, and nothing else. -/
theorem filter_ne_cons_of_not_mem {id : String} {outer : List String} (h : id ∉ outer) :
    (id :: outer).filter (· ≠ id) = outer := by
  rw [List.filter_cons_of_neg (by simp), List.filter_eq_self]
  intro other hother
  simpa using fun heq : other = id => h (heq ▸ hother)

/-- Leaving a type changes only what is known of that type, and it was known before. -/
theorem knows_leave_iff {v : Validator} {identity id : String} (h : v.Knows identity) :
    (v.leave identity).Knows id ↔ v.Knows id := by
  refine ⟨fun hid => ?_, knows_leave⟩
  rw [leave, knows_commit_iff] at hid
  rcases hid with hid | hid | hid
  · exact .inl hid
  · exact .inr (.inl (List.mem_of_mem_filter hid))
  · rcases List.mem_cons.1 hid with rfl | hid
    · exact h
    · exact .inr (.inr hid)

/-- Is the validator between two calls? -/
structure Idle (v : Validator) : Prop where
  /-- It is inside of no type. -/
  visiting : v.visiting = []
  /-- No verdict is open. -/
  pending : v.pending = []

/-- A new validator is between two calls. -/
@[simp] theorem idle_new : new.Idle := ⟨rfl, rfl⟩

/-- Between two calls, what is known is what was validated. -/
theorem Idle.knows_iff {v : Validator} (h : v.Idle) {id : String} :
    v.Knows id ↔ id ∈ v.validated := by
  simp [Knows, h.visiting, h.pending]

section

variable {v : Validator} {id : String} {outer : List String}

/-- A type inside another one is left with its verdict open. -/
theorem leave_of_inner (hv : v.visiting = id :: outer) (hid : id ∉ outer) (houter : outer ≠ []) :
    v.leave id = { v with visiting := outer, pending := id :: v.pending } := by
  simp only [leave, commit, hv, filter_ne_cons_of_not_mem hid]
  rw [if_neg (by simpa using houter)]

/-- With the outermost type, all open verdicts become final. -/
theorem leave_of_outermost (hv : v.visiting = [id]) :
    v.leave id = ⟨v.validated ++ id :: v.pending, [], []⟩ := by
  simp [leave, commit, hv]

/-- A walk that failed inside another type leaves the open verdicts alone. -/
theorem abandon_of_inner (hv : v.visiting = id :: outer) (hid : id ∉ outer) (houter : outer ≠ []) :
    v.abandon id = { v with visiting := outer } := by
  simp only [abandon, forget, hv, filter_ne_cons_of_not_mem hid]
  rw [if_neg (by simpa using houter)]

/-- A walk that failed at the outermost type drops all open verdicts. -/
theorem abandon_of_outermost (hv : v.visiting = [id]) : v.abandon id = ⟨v.validated, [], []⟩ := by
  simp [abandon, forget, hv]

end

namespace Visit

variable {v : Validator} {identity : String}

/-- Leaving a type does not change the outcome of the walk through its parts. -/
@[simp, grind =] theorem result_leave (inner : Visit (v.enter identity)) :
    (inner.leave identity).result = inner.result := by
  obtain ⟨result, after, events, knows⟩ := inner
  cases result <;> rfl

/-- A type whose parts are in order is left with a verdict. -/
theorem after_leave_of_ok {inner : Visit (v.enter identity)} (h : inner.result = .ok ()) :
    (inner.leave identity).after = inner.after.leave identity := by
  obtain ⟨result, after, events, knows⟩ := inner
  cases h
  rfl

/-- A type with a part that is not in order is left without a verdict. -/
theorem after_leave_of_error {inner : Visit (v.enter identity)} {e : ValidationError}
    (h : inner.result = .error e) :
    (inner.leave identity).after = inner.after.abandon identity := by
  obtain ⟨result, after, events, knows⟩ := inner
  cases h
  rfl

/-- Nothing is said of a type that is in order. -/
theorem events_leave_of_ok {inner : Visit (v.enter identity)} (h : inner.result = .ok ()) :
    (inner.leave identity).events = inner.events := by
  obtain ⟨result, after, events, knows⟩ := inner
  cases h
  rfl

/-- Of a type that is not in order it is said that it was refused. -/
theorem events_leave_of_error {inner : Visit (v.enter identity)} {e : ValidationError}
    (h : inner.result = .error e) :
    (inner.leave identity).events = inner.events ++ [.descriptorRejected identity e] := by
  obtain ⟨result, after, events, knows⟩ := inner
  cases h
  rfl

/-- A walk through the parts of a type that succeeded knows the type, and leaving changes nothing of
what it knows. -/
theorem knows_after_leave_iff {inner : Visit (v.enter identity)} (h : inner.result = .ok ())
    {id : String} : (inner.leave identity).after.Knows id ↔ inner.after.Knows id := by
  rw [after_leave_of_ok h]
  exact knows_leave_iff (inner.knows h identity (knows_enter_iff.2 (.inl rfl)))

end Visit

variable {Ref : Type} {g : Graph Ref}

/-! ### The walk by cases -/

/-- There is nothing to do at a plain type. -/
theorem visit_of_plain {v : Validator} {r : Ref} (h : g.Plain r) : visit g v r = .nothing v := by
  rw [visit, if_pos h]

/-- There is nothing to do at a type that is known. -/
theorem visit_of_knows {v : Validator} {r : Ref} (h : v.Knows (g.identity r)) :
    visit g v r = .nothing v := by
  rw [visit, dif_pos h, ite_self]

/-- At a type that is not well formed, the walk fails without going further. -/
theorem visit_of_defect {v : Validator} {r : Ref} {defect : Defect} (hplain : ¬ g.Plain r)
    (hknows : ¬ v.Knows (g.identity r)) (hsteps : g.steps r = .error defect) :
    visit g v r =
      .leave (g.identity r) (.failed ⟨defect, []⟩ (v.enter (g.identity r)) []) := by
  rw [visit, if_neg hplain, dif_neg hknows, hsteps]

/-- At a type that is well formed, the walk goes through its parts, inside the type. -/
theorem visit_of_steps {v : Validator} {r : Ref} {ways : List (Graph.Step Ref)}
    (hplain : ¬ g.Plain r) (hknows : ¬ v.Knows (g.identity r)) (hsteps : g.steps r = .ok ways) :
    visit g v r = .leave (g.identity r) (visitAll g (v.enter (g.identity r)) ways) := by
  rw [visit, if_neg hplain, dif_neg hknows, hsteps]

/-- There is nothing to do if no steps are left. -/
@[simp] theorem visitAll_nil {v : Validator} : visitAll g v [] = .nothing v := by
  rw [visitAll]

/-- The first step that fails is the last one. Its segment comes before the path of the error. -/
theorem visitAll_cons_of_error {v : Validator} {segment : String} {r : Ref}
    {rest : List (Graph.Step Ref)} {e : ValidationError} (h : (visit g v r).result = .error e) :
    visitAll g v ((segment, r) :: rest) =
      .failed (e.within segment) (visit g v r).after (visit g v r).events := by
  rw [visitAll]
  revert h
  generalize visit g v r = walk
  obtain ⟨result, after, events, knows⟩ := walk
  rintro ⟨⟩
  rfl

/-- After a step that succeeds, the others follow in the state that it left. -/
theorem visitAll_cons_of_ok {v : Validator} {segment : String} {r : Ref}
    {rest : List (Graph.Step Ref)} (h : (visit g v r).result = .ok ()) :
    visitAll g v ((segment, r) :: rest) =
      .followedBy ((visit g v r).knows h) (visit g v r).events
        (visitAll g (visit g v r).after rest) := by
  rw [visitAll]
  revert h
  generalize visit g v r = walk
  obtain ⟨result, after, events, knows⟩ := walk
  rintro ⟨⟩
  rfl

/-- **Induction along a walk**, with a property `P` of walks to a type and a property `Q` of walks to
several types in turn. -/
theorem walk_induction {P : (v : Validator) → Ref → Visit v → Prop}
    {Q : (v : Validator) → List (Graph.Step Ref) → Visit v → Prop}
    (plain : ∀ v r, g.Plain r → P v r (.nothing v))
    (known : ∀ v r, ¬ g.Plain r → v.Knows (g.identity r) → P v r (.nothing v))
    (defect : ∀ v r d, ¬ g.Plain r → ¬ v.Knows (g.identity r) → g.steps r = .error d →
      P v r (.leave (g.identity r) (.failed ⟨d, []⟩ (v.enter (g.identity r)) [])))
    (parts : ∀ v r ways, ¬ g.Plain r → ¬ v.Knows (g.identity r) → g.steps r = .ok ways →
      Q (v.enter (g.identity r)) ways (visitAll g (v.enter (g.identity r)) ways) →
      P v r (.leave (g.identity r) (visitAll g (v.enter (g.identity r)) ways)))
    (nil : ∀ v, Q v [] (.nothing v))
    (stop : ∀ v segment r rest e, (visit g v r).result = .error e → P v r (visit g v r) →
      Q v ((segment, r) :: rest)
        (.failed (e.within segment) (visit g v r).after (visit g v r).events))
    (next : ∀ v segment r rest (h : (visit g v r).result = .ok ()), P v r (visit g v r) →
      Q (visit g v r).after rest (visitAll g (visit g v r).after rest) →
      Q v ((segment, r) :: rest)
        (.followedBy ((visit g v r).knows h) (visit g v r).events
          (visitAll g (visit g v r).after rest))) :
    (∀ v r, P v r (visit g v r)) ∧ ∀ v ways, Q v ways (visitAll g v ways) := by
  refine visit.mutual_induct g (fun v r => P v r (visit g v r))
    (fun v ways => Q v ways (visitAll g v ways)) ?_ ?_ ?_ ?_ ?_ ?_ ?_
  · intro v r hplain
    rw [visit_of_plain hplain]
    exact plain v r hplain
  · intro v r hplain hknows
    rw [visit_of_knows hknows]
    exact known v r hplain hknows
  · intro v r hplain hknows d hsteps
    rw [visit_of_defect hplain hknows hsteps]
    exact defect v r d hplain hknows hsteps
  · intro v r hplain hknows ways hsteps ih
    rw [visit_of_steps hplain hknows hsteps]
    exact parts v r ways hplain hknows hsteps ih
  · intro v
    rw [visitAll_nil]
    exact nil v
  · intro v segment r rest e after events knows hwalk ih
    have herror : (visit g v r).result = .error e := by rw [hwalk]
    rw [visitAll_cons_of_error herror]
    exact stop v segment r rest e herror ih
  · intro v segment r rest after events knows hwalk ih ihrest
    have hok : (visit g v r).result = .ok () := by rw [hwalk]
    have hafter : (visit g v r).after = after := by rw [hwalk]
    subst hafter
    rw [visitAll_cons_of_ok hok]
    exact next v segment r rest hok ih ihrest

/-! ### A walk that succeeds -/

/-- What a walk to some types has found out: the types are settled, and whatever identity was added
is that of a well-formed type below one of them, whose parts are settled too. -/
structure Learns (g : Graph Ref) (targets : List Ref) {v : Validator} (walk : Visit v) : Prop where
  /-- The types need no further walk. -/
  settled : ∀ r ∈ targets, g.Settles walk.after.Knows r
  /-- Nothing is known without a reason. -/
  backed : ∀ id, walk.after.Knows id →
    v.Knows id ∨ g.Backed (g.ReachedFrom targets) walk.after.Knows id

/-- Where all is settled beforehand, nothing need be found out. -/
theorem learns_nothing {v : Validator} {targets : List Ref}
    (h : ∀ r ∈ targets, g.Settles v.Knows r) : Learns g targets (.nothing v) :=
  ⟨h, fun _ hid => .inl hid⟩

/-- From the parts of a type to the type: the type itself backs its identity. -/
theorem Learns.leave {v : Validator} {r : Ref} {ways : List (Graph.Step Ref)}
    {inner : Visit (v.enter (g.identity r))} (hplain : ¬ g.Plain r)
    (hsteps : g.steps r = .ok ways) (hok : inner.result = .ok ())
    (h : Learns g (ways.map Prod.snd) inner) : Learns g [r] (inner.leave (g.identity r)) := by
  obtain ⟨hwf, hparts⟩ := Graph.steps_eq_ok hsteps
  rw [hparts] at h
  have hknows : ∀ id, (inner.leave (g.identity r)).after.Knows id ↔ inner.after.Knows id :=
    fun _ => Visit.knows_after_leave_iff hok
  have hself : inner.after.Knows (g.identity r) :=
    inner.knows hok _ (knows_enter_iff.2 (.inl rfl))
  have hbelow : ∀ s, g.ReachedFrom (g.parts r) s → g.ReachedFrom [r] s := by
    rintro s ⟨t, ht, hts⟩
    exact ⟨r, List.mem_singleton_self r, Graph.Reaches.head ht hts⟩
  refine ⟨fun s hs => ?_, fun id hid => ?_⟩
  · rw [List.mem_singleton.1 hs]
    exact .inr ((hknows _).2 hself)
  · rcases h.backed id ((hknows id).1 hid) with hbefore | hback
    · rcases knows_enter_iff.1 hbefore with rfl | hbefore
      · exact .inr ⟨r, Graph.reachedFrom_of_mem (List.mem_singleton_self r), hplain, rfl, hwf,
          fun s hs => (h.settled s hs).mono fun _ => (hknows _).2⟩
      · exact .inl hbefore
    · exact .inr (hback.mono hbelow fun _ => (hknows _).2)

/-- One walk after another. What backs an identity in the first still does after the second. -/
theorem Learns.followedBy {v : Validator} {r : Ref} {targets : List Ref} {walk : Visit v}
    {later : Visit walk.after} (hok : walk.result = .ok ()) (hlater : later.result = .ok ())
    (h : Learns g [r] walk) (hrest : Learns g targets later) :
    Learns g (r :: targets) (.followedBy (walk.knows hok) walk.events later) := by
  have hfirst : ∀ s, g.ReachedFrom [r] s → g.ReachedFrom (r :: targets) s :=
    fun _ => Graph.ReachedFrom.mono (by simp)
  have hothers : ∀ s, g.ReachedFrom targets s → g.ReachedFrom (r :: targets) s :=
    fun _ => Graph.ReachedFrom.mono (List.subset_cons_self r targets)
  refine ⟨fun s hs => ?_, fun id hid => ?_⟩
  · rcases List.mem_cons.1 hs with rfl | hs
    · exact (h.settled s (List.mem_singleton_self s)).mono (later.knows hlater)
    · exact hrest.settled s hs
  · rcases hrest.backed id hid with hmid | hback
    · rcases h.backed id hmid with hbefore | hback
      · exact .inl hbefore
      · exact .inr (hback.mono hfirst (later.knows hlater))
    · exact .inr (hback.mono hothers fun _ hid => hid)

/-- Every walk that succeeds has found out what there is to know of the types it was sent to. -/
theorem learns_walk :
    (∀ v r, (visit g v r).result = .ok () → Learns g [r] (visit g v r)) ∧
      ∀ v ways, (visitAll g v ways).result = .ok () →
        Learns g (ways.map Prod.snd) (visitAll g v ways) := by
  refine walk_induction (P := fun v r walk => walk.result = .ok () → Learns g [r] walk)
    (Q := fun v ways walk => walk.result = .ok () → Learns g (ways.map Prod.snd) walk)
    ?plain ?known ?defect ?parts ?nil ?stop ?next
  case plain =>
    intro v r hplain _
    exact learns_nothing fun s hs => .inl (List.mem_singleton.1 hs ▸ hplain)
  case known =>
    intro v r _ hknows _
    exact learns_nothing fun s hs => .inr (List.mem_singleton.1 hs ▸ hknows)
  case defect =>
    intro v r d _ _ _ hok
    rw [Visit.result_leave] at hok
    cases hok
  case parts =>
    intro v r ways hplain _ hsteps ih hok
    rw [Visit.result_leave] at hok
    exact (ih hok).leave hplain hsteps hok
  case nil =>
    intro v _
    exact learns_nothing (by simp)
  case stop =>
    intro v segment r rest e _ _ hok
    cases hok
  case next =>
    intro v segment r rest hok ih ihrest hlater
    exact (ih hok).followedBy hok hlater (ihrest hlater)

/-- A walk that succeeded has settled the type, and has a reason for all that it added. -/
theorem learns_visit {v : Validator} {r : Ref} (h : (visit g v r).result = .ok ()) :
    Learns g [r] (visit g v r) := learns_walk.1 v r h

/-- A walk that succeeds has nothing to report. -/
theorem events_visit_of_ok {v : Validator} {r : Ref} (h : (visit g v r).result = .ok ()) :
    (visit g v r).events = [] := by
  refine (walk_induction (g := g) (P := fun v r walk => walk.result = .ok () → walk.events = [])
    (Q := fun v ways walk => walk.result = .ok () → walk.events = [])
    ?plain ?known ?defect ?parts ?nil ?stop ?next).1 v r h
  case plain => exact fun _ _ _ _ => rfl
  case known => exact fun _ _ _ _ _ => rfl
  case defect =>
    intro v r d _ _ _ hok
    rw [Visit.result_leave] at hok
    cases hok
  case parts =>
    intro v r ways _ _ _ ih hok
    rw [Visit.result_leave] at hok
    rw [Visit.events_leave_of_ok hok]
    exact ih hok
  case nil => exact fun _ _ => rfl
  case stop =>
    intro v segment r rest e _ _ hok
    cases hok
  case next =>
    intro v segment r rest hok ih ihrest hlater
    show (visit g v r).events ++ (visitAll g (visit g v r).after rest).events = []
    rw [ih hok, ihrest hlater, List.append_nil]

/-! ### A walk that fails -/

/-- Every walk that fails was sent to a type with one below it that is not well formed. -/
theorem exists_not_wellFormed_of_walk :
    (∀ v r e, (visit g v r).result = .error e → ∃ s, g.Reaches r s ∧ ¬ g.WellFormed s) ∧
      ∀ v ways e, (visitAll g v ways).result = .error e →
        ∃ way ∈ ways, ∃ s, g.Reaches way.2 s ∧ ¬ g.WellFormed s := by
  refine walk_induction
    (P := fun v r walk => ∀ e, walk.result = .error e → ∃ s, g.Reaches r s ∧ ¬ g.WellFormed s)
    (Q := fun v ways walk => ∀ e, walk.result = .error e →
      ∃ way ∈ ways, ∃ s, g.Reaches way.2 s ∧ ¬ g.WellFormed s)
    ?plain ?known ?defect ?parts ?nil ?stop ?next
  case plain | known | nil =>
    intros
    contradiction
  case defect =>
    intro v r d _ _ hsteps _ _
    exact ⟨r, Graph.Reaches.refl r, Graph.not_wellFormed_of_steps_eq_error hsteps⟩
  case parts =>
    intro v r ways _ _ hsteps ih e herror
    rw [Visit.result_leave] at herror
    obtain ⟨way, hway, s, hs, hwf⟩ := ih e herror
    refine ⟨s, Graph.Reaches.head ?_ hs, hwf⟩
    rw [← (Graph.steps_eq_ok hsteps).2]
    exact List.mem_map_of_mem hway
  case stop =>
    intro v segment r rest e herror ih _ _
    obtain ⟨s, hs, hwf⟩ := ih e herror
    exact ⟨_, List.mem_cons_self, s, hs, hwf⟩
  case next =>
    intro v segment r rest _ _ ihrest e herror
    obtain ⟨way, hway, hs⟩ := ihrest e herror
    exact ⟨way, List.mem_cons_of_mem _ hway, hs⟩

/-- **A walk fails only at a type that is not well formed.** -/
theorem exists_not_wellFormed_of_visit_eq_error {v : Validator} {r : Ref} {e : ValidationError}
    (h : (visit g v r).result = .error e) : ∃ s, g.Reaches r s ∧ ¬ g.WellFormed s :=
  exists_not_wellFormed_of_walk.1 v r e h

/-- A sound type is accepted, whatever the validator knows. -/
theorem visit_of_sound {v : Validator} {r : Ref} (h : g.Sound r) :
    (visit g v r).result = .ok () := by
  cases hresult : (visit g v r).result with
  | ok => rfl
  | error e =>
    obtain ⟨s, hs, hwf⟩ := exists_not_wellFormed_of_visit_eq_error hresult
    exact absurd (h s hs) hwf

/-! ### The state around a walk -/

/-- Inside another type, a walk leaves the types around it and the final verdicts as they are. -/
theorem visiting_walk :
    (∀ v r, v.visiting ≠ [] → (visit g v r).after.visiting = v.visiting ∧
        (visit g v r).after.validated = v.validated) ∧
      ∀ v ways, v.visiting ≠ [] → (visitAll g v ways).after.visiting = v.visiting ∧
        (visitAll g v ways).after.validated = v.validated := by
  refine walk_induction
    (P := fun v r walk => v.visiting ≠ [] →
      walk.after.visiting = v.visiting ∧ walk.after.validated = v.validated)
    (Q := fun v ways walk => v.visiting ≠ [] →
      walk.after.visiting = v.visiting ∧ walk.after.validated = v.validated)
    ?plain ?known ?defect ?parts ?nil ?stop ?next
  case plain => exact fun _ _ _ _ => ⟨rfl, rfl⟩
  case known => exact fun _ _ _ _ _ => ⟨rfl, rfl⟩
  case defect =>
    intro v r d _ hknows _ houter
    have hid : g.identity r ∉ v.visiting := fun h => hknows (.inr (.inl h))
    rw [Visit.after_leave_of_error rfl, Visit.failed, abandon_of_inner rfl hid houter]
    exact ⟨rfl, rfl⟩
  case parts =>
    intro v r ways _ hknows _ ih houter
    have hid : g.identity r ∉ v.visiting := fun h => hknows (.inr (.inl h))
    obtain ⟨hvisiting, hvalidated⟩ := ih (List.cons_ne_nil _ _)
    cases hresult : (visitAll g (v.enter (g.identity r)) ways).result with
    | ok =>
      rw [Visit.after_leave_of_ok hresult, leave_of_inner hvisiting hid houter]
      exact ⟨rfl, hvalidated⟩
    | error e =>
      rw [Visit.after_leave_of_error hresult, abandon_of_inner hvisiting hid houter]
      exact ⟨rfl, hvalidated⟩
  case nil => exact fun _ _ => ⟨rfl, rfl⟩
  case stop => exact fun _ _ _ _ _ _ ih => ih
  case next =>
    intro v segment r rest _ ih ihrest houter
    obtain ⟨hvisiting, hvalidated⟩ := ih houter
    obtain ⟨hvisiting', hvalidated'⟩ := ihrest (hvisiting ▸ houter)
    exact ⟨hvisiting'.trans hvisiting, hvalidated'.trans hvalidated⟩

/-- A walk through the parts of an outermost type. -/
theorem visiting_visitAll_enter {v : Validator} (hidle : v.Idle) (id : String)
    (ways : List (Graph.Step Ref)) :
    (visitAll g (v.enter id) ways).after.visiting = [id] ∧
      (visitAll g (v.enter id) ways).after.validated = v.validated := by
  obtain ⟨hvisiting, hvalidated⟩ := visiting_walk.2 (v.enter id) ways (List.cons_ne_nil _ _)
  refine ⟨hvisiting.trans ?_, hvalidated⟩
  show id :: v.visiting = [id]
  rw [hidle.visiting]

/-- The validator after an outermost walk: what was finished is added if the walk succeeded, and it
is as before if not. -/
theorem after_visit_of_idle {v : Validator} (hidle : v.Idle) (r : Ref) :
    (∃ found, (visit g v r).after = ⟨v.validated ++ found, [], []⟩) ∧
      ∀ e, (visit g v r).result = .error e → (visit g v r).after = v := by
  have hv : ⟨v.validated, [], []⟩ = v := by
    obtain ⟨validated, visiting, pending⟩ := v
    cases hidle.visiting
    cases hidle.pending
    rfl
  by_cases hskip : g.Plain r ∨ v.Knows (g.identity r)
  · have hnothing : visit g v r = .nothing v := hskip.elim visit_of_plain visit_of_knows
    rw [hnothing]
    exact ⟨⟨[], by rw [List.append_nil, hv]; rfl⟩, by rintro e ⟨⟩⟩
  obtain ⟨hplain, hknows⟩ := not_or.1 hskip
  cases hsteps : g.steps r with
  | error d =>
    have hafter : (visit g v r).after = v := by
      rw [visit_of_defect hplain hknows hsteps, Visit.after_leave_of_error rfl,
        abandon_of_outermost (by simp [Visit.failed, enter, hidle.visiting])]
      exact hv
    exact ⟨⟨[], by rw [hafter, List.append_nil, hv]⟩, fun _ _ => hafter⟩
  | ok ways =>
    obtain ⟨hvisiting, hvalidated⟩ := visiting_visitAll_enter (g := g) hidle (g.identity r) ways
    rw [visit_of_steps hplain hknows hsteps, Visit.result_leave]
    cases hresult : (visitAll g (v.enter (g.identity r)) ways).result with
    | ok =>
      rw [Visit.after_leave_of_ok hresult, leave_of_outermost hvisiting, hvalidated]
      exact ⟨⟨_, rfl⟩, by rintro e ⟨⟩⟩
    | error e =>
      rw [Visit.after_leave_of_error hresult, abandon_of_outermost hvisiting, hvalidated]
      exact ⟨⟨[], by rw [List.append_nil]⟩, fun _ _ => hv⟩

/-- **An outermost walk that fails leaves no trace.** -/
theorem after_visit_of_error {v : Validator} (hidle : v.Idle) {r : Ref} {e : ValidationError}
    (h : (visit g v r).result = .error e) : (visit g v r).after = v :=
  (after_visit_of_idle hidle r).2 e h

/-- **An outermost walk leaves nothing half done.** -/
theorem idle_visit {v : Validator} (hidle : v.Idle) (r : Ref) : (visit g v r).after.Idle := by
  obtain ⟨found, hafter⟩ := (after_visit_of_idle hidle r).1
  rw [hafter]
  exact ⟨rfl, rfl⟩

end Validator

end TypeSchema
