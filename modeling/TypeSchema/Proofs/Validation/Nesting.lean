import TypeSchema.Proofs.Validation.Walk

/-!
# How far a walk goes

A walk of the validator ends because every check takes up an identity, and not because there are
finitely many types: it may be sent to types without end, such as those that a host makes up as it
is asked for them, as long as these have finitely many identities between them. Nothing is asked of
the types besides. They may be ill formed, and types of one identity may differ.

`course` is the walk with a record of the checks that it makes, over types of any number. It is
given up where more checks would be inside of each other than a limit allows.

* `matches_course`: over the types of a graph, and as long as it is not given up, it is the walk of
  the validator.
* `course_mono`: a higher limit changes nothing.
* `fresh_course`: the checks are of **different identities that were not known before**.
* `exists_course_of_ncard_le`: a limit as high as the number of identities is never reached.
-/

namespace TypeSchema

variable {Ref : Type}

/-! ### The course of a walk -/

/-- Is the descriptor that of a plain value? -/
abbrev Node.IsPlain (node : Node Ref) : Prop := node.kind.isPrimitive = true

/-- A check of a type. -/
structure Check (Ref : Type) where
  /-- The type. -/
  target : Ref
  /-- How many other checks it is inside of. -/
  depth : Nat
  deriving Repr, DecidableEq

/-- What a walk comes to. -/
structure Course (Ref : Type) where
  /-- The defect, if the walk met one. -/
  result : Except ValidationError Unit
  /-- The validator after the walk. -/
  after : Validator
  /-- What happened on the walk. -/
  events : List Event
  /-- The checks, in the order in which they began. -/
  checks : List (Check Ref)

namespace Course

/-- Nothing to walk. -/
def nothing (v : Validator) : Course Ref := ⟨.ok (), v, [], []⟩

/-- A defect before anything was walked. -/
def failed (e : ValidationError) (after : Validator) : Course Ref := ⟨.error e, after, [], []⟩

/-- From the parts of a type to the check of the type, and out of it. -/
def leave (identity : String) (r : Ref) (inner : Course Ref) : Course Ref where
  result := inner.result
  after :=
    match inner.result with
    | .ok () => inner.after.leave identity
    | .error _ => inner.after.abandon identity
  events :=
    match inner.result with
    | .ok () => inner.events
    | .error e => inner.events ++ [.descriptorRejected identity e]
  checks := ⟨r, 0⟩ :: inner.checks.map fun check => { check with depth := check.depth + 1 }

/-- A walk to several types that ended with the first of them. -/
def stopped (e : ValidationError) (c : Course Ref) : Course Ref := { c with result := .error e }

/-- One walk after another that succeeded. -/
def followedBy (c later : Course Ref) : Course Ref :=
  { later with events := c.events ++ later.events, checks := c.checks ++ later.checks }

/-- The answer of the call that the walk is made for. -/
def answer (c : Course Ref) : Attempt ValidationError Unit × Validator :=
  (ExceptT.mk ⟨c.result, c.events⟩, c.after)

/-- The identities of the types that were checked. -/
def identities (look : Ref → Node Ref) (c : Course Ref) : List String :=
  c.checks.map fun check => (look check.target).identity

variable {look : Ref → Node Ref}

/-- Leaving a type, the walk has checked its identity before those of its parts. -/
@[simp] theorem identities_leave (identity : String) (r : Ref) (inner : Course Ref) :
    (inner.leave identity r).identities look =
      (look r).identity :: inner.identities look := by
  simp [identities, leave]

/-- One course after another has checked the identities of both. -/
@[simp] theorem identities_followedBy (c later : Course Ref) :
    (c.followedBy later).identities look = c.identities look ++ later.identities look := by
  simp [identities, followedBy]

end Course

namespace Validator

section

variable (look : Ref → Node Ref)

/-- Walks types one after another, up to the first defect, if `walk` walks each of them. -/
def courseAll (walk : Validator → Ref → Option (Course Ref)) :
    Validator → List (Graph.Step Ref) → Option (Course Ref)
  | v, [] => some (.nothing v)
  | v, (segment, r) :: rest => do
    let first ← walk v r
    match first.result with
    | .error e => some (first.stopped (e.within segment))
    | .ok () => (courseAll walk first.after rest).map first.followedBy

/-- Checks a type, if `walk` walks each of its parts. -/
def checkWith (walk : Validator → Ref → Option (Course Ref)) (v : Validator) (r : Ref) :
    Option (Course Ref) :=
  let identity := (look r).identity
  match (look r).steps look with
  | .error defect => some ((Course.failed ⟨defect, []⟩ (v.enter identity)).leave identity r)
  | .ok ways => (courseAll walk (v.enter identity) ways).map (Course.leave identity r)

/-- The course of a walk to a type, with at most `limit` checks inside of each other. -/
def course (limit : Nat) (v : Validator) (r : Ref) : Option (Course Ref) :=
  if (look r).IsPlain then some (.nothing v)
  else if v.Knows (look r).identity then some (.nothing v)
  else
    match limit with
    | 0 => none
    | limit + 1 => checkWith look (course limit) v r

end

variable {look : Ref → Node Ref} {walk : Validator → Ref → Option (Course Ref)} {v : Validator}
  {r : Ref} {limit : Nat} {c : Course Ref}

/-! ### The course by cases -/

/-- There is nothing to check at a plain type. -/
theorem course_of_plain (h : (look r).IsPlain) :
    course look limit v r = some (.nothing v) := by
  unfold course
  rw [if_pos h]

/-- There is nothing to check at a type that is known. -/
theorem course_of_knows (h : v.Knows (look r).identity) :
    course look limit v r = some (.nothing v) := by
  unfold course
  rw [if_pos h, ite_self]

/-- At a type that is not known, one level of the limit is used up. -/
theorem course_of_unknown (hplain : ¬ (look r).IsPlain)
    (hknows : ¬ v.Knows (look r).identity) :
    course look (limit + 1) v r = checkWith look (course look limit) v r := by
  conv_lhs => unfold course
  rw [if_neg hplain, if_neg hknows]

/-- Where there is something to walk, the limit allows for a check. -/
theorem course_cases (h : course look limit v r = some c) :
    ((look r).IsPlain ∨ v.Knows (look r).identity) ∧ c = .nothing v ∨
      ¬ (look r).IsPlain ∧ ¬ v.Knows (look r).identity ∧
        ∃ lower, limit = lower + 1 ∧ checkWith look (course look lower) v r = some c := by
  by_cases hplain : (look r).IsPlain
  · rw [course_of_plain hplain] at h
    exact .inl ⟨.inl hplain, (Option.some.inj h).symm⟩
  by_cases hknows : v.Knows (look r).identity
  · rw [course_of_knows hknows] at h
    exact .inl ⟨.inr hknows, (Option.some.inj h).symm⟩
  cases limit with
  | zero =>
    unfold course at h
    rw [if_neg hplain, if_neg hknows] at h
    cases h
  | succ lower =>
    rw [course_of_unknown hplain hknows] at h
    exact .inr ⟨hplain, hknows, lower, rfl, h⟩

/-- At a type that is not well formed, the course ends. -/
theorem checkWith_of_defect {d : Defect} (h : (look r).steps look = .error d) :
    checkWith look walk v r = some ((Course.failed ⟨d, []⟩
      (v.enter (look r).identity)).leave (look r).identity r) := by
  simp only [checkWith, h]

/-- At a type that is well formed, the course goes through its parts. -/
theorem checkWith_of_steps {ways : List (Graph.Step Ref)} (h : (look r).steps look = .ok ways) :
    checkWith look walk v r =
      (courseAll walk (v.enter (look r).identity) ways).map
        (Course.leave (look r).identity r) := by
  simp only [checkWith, h]

/-- The first step that fails is the last one. -/
theorem courseAll_of_error {segment : String} {rest : List (Graph.Step Ref)}
    {e : ValidationError} (h : walk v r = some c) (herror : c.result = .error e) :
    courseAll walk v ((segment, r) :: rest) = some (c.stopped (e.within segment)) := by
  simp [courseAll, h, herror]

/-- After a step that succeeds, the others follow in the state that it left. -/
theorem courseAll_of_ok {segment : String} {rest : List (Graph.Step Ref)} (h : walk v r = some c)
    (hok : c.result = .ok ()) :
    courseAll walk v ((segment, r) :: rest) = (courseAll walk c.after rest).map c.followedBy := by
  simp [courseAll, h, hok]

/-- A walk to several types begins with the first of them. -/
theorem courseAll_cons_cases {segment : String} {rest : List (Graph.Step Ref)}
    (h : courseAll walk v ((segment, r) :: rest) = some c) :
    ∃ first, walk v r = some first ∧
      ((∃ e, first.result = .error e ∧ c = first.stopped (e.within segment)) ∨
        first.result = .ok () ∧
          ∃ later, courseAll walk first.after rest = some later ∧ c = first.followedBy later) := by
  obtain ⟨first, hfirst, -⟩ := Option.bind_eq_some_iff.1 h
  refine ⟨first, hfirst, ?_⟩
  cases hresult : first.result with
  | error e =>
    rw [courseAll_of_error hfirst hresult] at h
    exact .inl ⟨e, rfl, (Option.some.inj h).symm⟩
  | ok =>
    rw [courseAll_of_ok hfirst hresult] at h
    obtain ⟨later, hlater, rfl⟩ := Option.map_eq_some_iff.1 h
    exact .inr ⟨rfl, later, hlater, rfl⟩

/-- **Induction along a course** that is not given up, with a property `P` of walks to a type and a
property `Q` of walks to several types in turn, each within a limit. -/
theorem course_induction {P : Nat → Validator → Ref → Course Ref → Prop}
    {Q : Nat → Validator → List (Graph.Step Ref) → Course Ref → Prop}
    (plain : ∀ limit v r, (look r).IsPlain → P limit v r (.nothing v))
    (known : ∀ limit v r, v.Knows (look r).identity → P limit v r (.nothing v))
    (defect : ∀ limit v r d, ¬ (look r).IsPlain → ¬ v.Knows (look r).identity →
      (look r).steps look = .error d → P (limit + 1) v r
        ((Course.failed ⟨d, []⟩ (v.enter (look r).identity)).leave (look r).identity r))
    (parts : ∀ limit v r ways c, ¬ (look r).IsPlain →
      ¬ v.Knows (look r).identity → (look r).steps look = .ok ways →
      Q limit (v.enter (look r).identity) ways c → P (limit + 1) v r (c.leave (look r).identity r))
    (nil : ∀ limit v, Q limit v [] (.nothing v))
    (stop : ∀ limit v segment r rest c e, P limit v r c → c.result = .error e →
      Q limit v ((segment, r) :: rest) (c.stopped (e.within segment)))
    (next : ∀ limit v segment r rest c later, P limit v r c → c.result = .ok () →
      Q limit c.after rest later → Q limit v ((segment, r) :: rest) (c.followedBy later))
    {limit : Nat} {v : Validator} {r : Ref} {c : Course Ref}
    (h : course look limit v r = some c) : P limit v r c := by
  have turns : ∀ limit, (∀ v r c, course look limit v r = some c → P limit v r c) →
      ∀ ways v c, courseAll (course look limit) v ways = some c → Q limit v ways c := by
    intro limit ih ways
    induction ways with
    | nil =>
      intro v c h
      cases h
      exact nil limit v
    | cons way rest ihrest =>
      intro v c h
      obtain ⟨first, hfirst, ⟨e, herror, rfl⟩ | ⟨hok, later, hlater, rfl⟩⟩ :=
        courseAll_cons_cases h
      · exact stop limit v _ _ rest first e (ih v _ first hfirst) herror
      · exact next limit v _ _ rest first later (ih v _ first hfirst) hok (ihrest _ _ hlater)
  induction limit generalizing v r c with
  | zero =>
    obtain ⟨hplain | hknows, rfl⟩ | ⟨-, -, lower, hlower, -⟩ := course_cases h
    · exact plain 0 v r hplain
    · exact known 0 v r hknows
    · cases hlower
  | succ limit ih =>
    obtain ⟨hplain | hknows, rfl⟩ | ⟨hplain, hknows, lower, hlower, h⟩ := course_cases h
    · exact plain _ v r hplain
    · exact known _ v r hknows
    · cases hlower
      cases hsteps : (look r).steps look with
      | error d =>
        rw [checkWith_of_defect hsteps] at h
        cases h
        exact defect limit v r d hplain hknows hsteps
      | ok ways =>
        rw [checkWith_of_steps hsteps] at h
        obtain ⟨inner, hinner, rfl⟩ := Option.map_eq_some_iff.1 h
        exact parts limit v r ways inner hplain hknows hsteps
          (turns limit (fun v r c => ih) ways _ inner hinner)

/-! ### The walk of the validator -/

/-- Does a course come to what a walk of the validator comes to? -/
structure Matches (c : Course Ref) (walk : Visit v) : Prop where
  /-- The same result. -/
  result : c.result = walk.result
  /-- The same validator. -/
  after : c.after = walk.after
  /-- The same events. -/
  events : c.events = walk.events

/-- A course and a walk that match inside a type match outside of it. -/
theorem Matches.leave {identity : String} {inner : Visit (v.enter identity)} (r : Ref)
    (h : Matches c inner) : Matches (c.leave identity r) (inner.leave identity) := by
  cases hresult : inner.result with
  | ok =>
    have hok : c.result = .ok () := h.result.trans hresult
    refine ⟨?_, ?_, ?_⟩
    · rw [Visit.result_leave, ← h.result]
      rfl
    · rw [Visit.after_leave_of_ok hresult, ← h.after]
      simp [Course.leave, hok]
    · rw [Visit.events_leave_of_ok hresult, ← h.events]
      simp [Course.leave, hok]
  | error e =>
    have herror : c.result = .error e := h.result.trans hresult
    refine ⟨?_, ?_, ?_⟩
    · rw [Visit.result_leave, ← h.result]
      rfl
    · rw [Visit.after_leave_of_error hresult, ← h.after]
      simp [Course.leave, herror]
    · rw [Visit.events_leave_of_error hresult, ← h.events]
      simp [Course.leave, herror]

/-- **Over the types of a graph**, a course that is not given up is the walk of the validator. -/
theorem matches_course {g : Graph Ref} (h : course g.node limit v r = some c) :
    Matches c (visit g v r) := by
  refine course_induction (P := fun _ v r c => Matches c (visit g v r))
    (Q := fun _ v ways c => Matches c (visitAll g v ways))
    ?plain ?known ?defect ?parts ?nil ?stop ?next h
  case plain =>
    intro _ v r hplain
    rw [visit_of_plain hplain]
    exact ⟨rfl, rfl, rfl⟩
  case known =>
    intro _ v r hknows
    rw [visit_of_knows hknows]
    exact ⟨rfl, rfl, rfl⟩
  case defect =>
    intro _ v r d hplain hknows hsteps
    rw [visit_of_defect hplain hknows hsteps]
    exact Matches.leave r ⟨rfl, rfl, rfl⟩
  case parts =>
    intro _ v r ways c hplain hknows hsteps ih
    rw [visit_of_steps hplain hknows hsteps]
    exact ih.leave r
  case nil =>
    intro _ v
    rw [visitAll_nil]
    exact ⟨rfl, rfl, rfl⟩
  case stop =>
    intro _ v segment r rest c e ih herror
    rw [visitAll_cons_of_error (ih.result.symm.trans herror)]
    exact ⟨rfl, ih.after, ih.events⟩
  case next =>
    intro _ v segment r rest c later ih hok ihrest
    rw [visitAll_cons_of_ok (ih.result.symm.trans hok)]
    rw [ih.after] at ihrest
    refine ⟨ihrest.result, ihrest.after, ?_⟩
    show c.events ++ later.events = _ ++ _
    rw [ih.events, ihrest.events]

/-! ### The checks of a course -/

/-- Are the checks of a course of different identities, none of which was known before, and does the
validator know afterwards what it knew and what was checked, if the walk succeeded? -/
structure Fresh (look : Ref → Node Ref) (v : Validator) (c : Course Ref) : Prop where
  /-- No identity is checked twice. -/
  nodup : (c.identities look).Nodup
  /-- No plain value is checked. -/
  compound : ∀ check ∈ c.checks, ¬ (look check.target).IsPlain
  /-- No known identity is checked. -/
  unknown : ∀ id ∈ c.identities look, ¬ v.Knows id
  /-- What is checked is known. -/
  knows : c.result = .ok () → ∀ id, c.after.Knows id ↔ v.Knows id ∨ id ∈ c.identities look

/-- A course without checks has checked nothing twice. -/
theorem fresh_nothing : Fresh look v (.nothing v) :=
  ⟨List.nodup_nil, by simp [Course.nothing], by simp [Course.nothing, Course.identities],
    by simp [Course.nothing, Course.identities]⟩

/-- The check of a type takes up its identity, and nothing inside of it is of that identity. -/
theorem Fresh.leave (hplain : ¬ (look r).IsPlain)
    (hknows : ¬ v.Knows (look r).identity)
    (h : Fresh look (v.enter (look r).identity) c) :
    Fresh look v (c.leave (look r).identity r) := by
  have hinner : ∀ id ∈ c.identities look, id ≠ (look r).identity ∧ ¬ v.Knows id :=
    fun id hid => not_or.1 fun hor => h.unknown id hid (knows_enter_iff.2 hor)
  refine ⟨?_, ?_, ?_, fun hok id => ?_⟩
  · rw [Course.identities_leave, List.nodup_cons]
    exact ⟨fun hmem => (hinner _ hmem).1 rfl, h.nodup⟩
  · intro check hcheck
    rcases List.mem_cons.1 hcheck with rfl | hcheck
    · exact hplain
    · obtain ⟨inner, hmem, rfl⟩ := List.mem_map.1 hcheck
      exact h.compound inner hmem
  · intro id hid
    rw [Course.identities_leave] at hid
    rcases List.mem_cons.1 hid with rfl | hid
    · exact hknows
    · exact (hinner id hid).2
  · replace hok : c.result = .ok () := hok
    have hafter : (c.leave (look r).identity r).after = c.after.leave (look r).identity := by
      simp [Course.leave, hok]
    have hself : c.after.Knows (look r).identity :=
      (h.knows hok _).2 (.inl (knows_enter_iff.2 (.inl rfl)))
    rw [hafter, knows_leave_iff hself, h.knows hok, knows_enter_iff, Course.identities_leave,
      List.mem_cons]
    tauto

/-- What is checked later was not known after the earlier checks. -/
theorem Fresh.followedBy {later : Course Ref} (hok : c.result = .ok ()) (h : Fresh look v c)
    (hlater : Fresh look c.after later) : Fresh look v (c.followedBy later) := by
  have hnew : ∀ id ∈ later.identities look, ¬ v.Knows id ∧ id ∉ c.identities look :=
    fun id hid => not_or.1 fun hor => hlater.unknown id hid ((h.knows hok id).2 hor)
  refine ⟨?_, ?_, ?_, fun hlaterok id => ?_⟩
  · rw [Course.identities_followedBy, List.nodup_append]
    refine ⟨h.nodup, hlater.nodup, fun id hid other hother heq => ?_⟩
    exact (hnew other hother).2 (heq ▸ hid)
  · intro check hcheck
    exact (List.mem_append.1 hcheck).elim (h.compound check) (hlater.compound check)
  · intro id hid
    rw [Course.identities_followedBy] at hid
    exact (List.mem_append.1 hid).elim (h.unknown id) fun hmem => (hnew id hmem).1
  · rw [Course.identities_followedBy, List.mem_append, ← or_assoc, ← h.knows hok]
    exact hlater.knows hlaterok id

/-- **No identity is checked twice**, and none that was known before. -/
theorem fresh_course (h : course look limit v r = some c) : Fresh look v c := by
  refine course_induction (P := fun _ v _ c => Fresh look v c) (Q := fun _ v _ c => Fresh look v c)
    ?plain ?known ?defect ?parts ?nil ?stop ?next h
  case plain => exact fun _ _ _ _ => fresh_nothing
  case known => exact fun _ _ _ _ => fresh_nothing
  case defect =>
    intro _ v r d hplain hknows _
    refine Fresh.leave hplain hknows ⟨List.nodup_nil, ?_, ?_, nofun⟩ <;>
      simp [Course.failed, Course.identities]
  case parts => exact fun _ _ _ _ _ hplain hknows _ ih => ih.leave hplain hknows
  case nil => exact fun _ _ => fresh_nothing
  case stop => exact fun _ _ _ _ _ _ _ ih _ => ⟨ih.nodup, ih.compound, ih.unknown, nofun⟩
  case next => exact fun _ _ _ _ _ _ _ ih hok ihrest => ih.followedBy hok ihrest

/-- Checks are inside of each other only as far as the limit allows. -/
theorem depth_lt_of_course (h : course look limit v r = some c) :
    ∀ check ∈ c.checks, check.depth < limit := by
  refine course_induction (P := fun limit _ _ c => ∀ check ∈ c.checks, check.depth < limit)
    (Q := fun limit _ _ c => ∀ check ∈ c.checks, check.depth < limit)
    ?plain ?known ?defect ?parts ?nil ?stop ?next h
  case plain | known | nil => simp [Course.nothing]
  case defect => simp [Course.failed, Course.leave]
  case parts =>
    intro limit v r ways c _ _ _ ih check hcheck
    rcases List.mem_cons.1 hcheck with rfl | hcheck
    · exact Nat.succ_pos limit
    · obtain ⟨inner, hmem, rfl⟩ := List.mem_map.1 hcheck
      exact Nat.succ_lt_succ (ih inner hmem)
  case stop => exact fun _ _ _ _ _ _ _ ih _ => ih
  case next =>
    intro limit v segment r rest c later ih _ ihrest check hcheck
    exact (List.mem_append.1 hcheck).elim (ih check) (ihrest check)

/-! ### The limit -/

/-- **A higher limit changes nothing** once the course is not given up. -/
theorem course_mono {more : Nat} (h : course look limit v r = some c) (hle : limit ≤ more) :
    course look more v r = some c := by
  refine course_induction
    (P := fun limit v r c => ∀ more, limit ≤ more → course look more v r = some c)
    (Q := fun limit v ways c =>
      ∀ more, limit ≤ more → courseAll (course look more) v ways = some c)
    ?plain ?known ?defect ?parts ?nil ?stop ?next h more hle
  case plain => exact fun _ _ _ hplain _ _ => course_of_plain hplain
  case known => exact fun _ _ _ hknows _ _ => course_of_knows hknows
  case defect =>
    intro limit v r d hplain hknows hsteps more hle
    obtain ⟨more, rfl⟩ := Nat.exists_eq_add_of_lt hle
    rw [course_of_unknown hplain hknows, checkWith_of_defect hsteps]
  case parts =>
    intro limit v r ways c hplain hknows hsteps ih more hle
    obtain ⟨more, rfl⟩ := Nat.exists_eq_add_of_lt hle
    rw [course_of_unknown hplain hknows, checkWith_of_steps hsteps,
      ih _ (Nat.le_add_right limit more)]
    rfl
  case nil => exact fun _ _ _ _ => rfl
  case stop => exact fun _ _ _ _ _ _ _ ih herror more hle => courseAll_of_error (ih more hle) herror
  case next =>
    intro limit v segment r rest c later ih hok ihrest more hle
    rw [courseAll_of_ok (ih more hle) hok, ihrest more hle]
    rfl

/-- The identities that a walk may still check: those of types, no plain values, that the validator
does not know. -/
def unchecked (look : Ref → Node Ref) (v : Validator) : Set String :=
  {id | ¬ v.Knows id ∧ ∃ r, ¬ (look r).IsPlain ∧ (look r).identity = id}

/-- What is unchecked is an identity of the family. -/
theorem unchecked_subset : unchecked look v ⊆ Set.range fun r => (look r).identity :=
  fun _ ⟨_, r, _, hid⟩ => ⟨r, hid⟩

/-- When more is known, no more is unchecked. -/
theorem unchecked_anti {after : Validator} (h : ∀ id, v.Knows id → after.Knows id) :
    unchecked look after ⊆ unchecked look v :=
  fun id ⟨hknows, hid⟩ => ⟨fun hv => hknows (h id hv), hid⟩

/-- Entering a type takes up its identity. -/
theorem ncard_unchecked_enter_lt (hfinite : (unchecked look v).Finite)
    (hplain : ¬ (look r).IsPlain) (hknows : ¬ v.Knows (look r).identity) :
    (unchecked look (v.enter (look r).identity)).ncard < (unchecked look v).ncard := by
  have hmem : (look r).identity ∈ unchecked look v := ⟨hknows, r, hplain, rfl⟩
  have hnot : (look r).identity ∉ unchecked look (v.enter (look r).identity) :=
    fun h => h.1 (knows_enter_iff.2 (.inl rfl))
  have hsub : unchecked look (v.enter (look r).identity) ⊆ unchecked look v :=
    unchecked_anti fun _ hid => knows_enter_iff.2 (.inr hid)
  exact Set.ncard_lt_ncard ⟨hsub, fun h => hnot (h hmem)⟩ hfinite

/-- A course is not given up if there is room for the check, should one be due. -/
theorem exists_course_of_check (h : ¬ (look r).IsPlain →
      ¬ v.Knows (look r).identity →
        ∃ lower, limit = lower + 1 ∧ ∃ c, checkWith look (course look lower) v r = some c) :
    ∃ c, course look limit v r = some c := by
  by_cases hplain : (look r).IsPlain
  · exact ⟨_, course_of_plain hplain⟩
  by_cases hknows : v.Knows (look r).identity
  · exact ⟨_, course_of_knows hknows⟩
  obtain ⟨lower, rfl, c, hc⟩ := h hplain hknows
  exact ⟨c, (course_of_unknown hplain hknows).trans hc⟩

/-- Walks one after another: what the earlier ones have checked, the later ones need no room for. -/
theorem exists_courseAll_of_ncard_le (hfinite : (Set.range fun r => (look r).identity).Finite)
    (hone : ∀ v r, (unchecked look v).ncard ≤ limit → ∃ c, course look limit v r = some c)
    (ways : List (Graph.Step Ref)) (hlimit : (unchecked look v).ncard ≤ limit) :
    ∃ c, courseAll (course look limit) v ways = some c := by
  induction ways generalizing v with
  | nil => exact ⟨_, rfl⟩
  | cons way rest ih =>
    obtain ⟨segment, r⟩ := way
    obtain ⟨first, hfirst⟩ := hone v r hlimit
    cases hresult : first.result with
    | error e => exact ⟨_, courseAll_of_error hfirst hresult⟩
    | ok =>
      have hkept : ∀ id, v.Knows id → first.after.Knows id :=
        fun id hid => ((fresh_course hfirst).knows hresult id).2 (.inl hid)
      have hless : (unchecked look first.after).ncard ≤ (unchecked look v).ncard :=
        Set.ncard_le_ncard (unchecked_anti hkept) (hfinite.subset unchecked_subset)
      obtain ⟨later, hlater⟩ := ih (hless.trans hlimit)
      rw [courseAll_of_ok hfirst hresult, hlater]
      exact ⟨_, rfl⟩

/-- **The limit is not reached** if it is as high as the number of identities to check. -/
theorem exists_course_of_ncard_le (hfinite : (Set.range fun r => (look r).identity).Finite)
    (hlimit : (unchecked look v).ncard ≤ limit) : ∃ c, course look limit v r = some c := by
  induction limit generalizing v r with
  | zero =>
    refine exists_course_of_check fun hplain hknows => ?_
    have hlt := ncard_unchecked_enter_lt (hfinite.subset unchecked_subset) hplain hknows
    omega
  | succ limit ih =>
    refine exists_course_of_check fun hplain hknows => ⟨limit, rfl, ?_⟩
    have hlt := ncard_unchecked_enter_lt (hfinite.subset unchecked_subset) hplain hknows
    cases hsteps : (look r).steps look with
    | error d => exact ⟨_, checkWith_of_defect hsteps⟩
    | ok ways =>
      obtain ⟨inner, hinner⟩ := exists_courseAll_of_ncard_le hfinite (fun v r => ih) ways
        (v := v.enter (look r).identity) (by omega)
      rw [checkWith_of_steps hsteps, hinner]
      exact ⟨_, rfl⟩

/-- **A call ends, and checks no identity twice.** Let there be any number of types, well formed or
not, alike under one identity or not, with finitely many identities between them, and let a
validator be between calls. There is a course that the call takes as soon as so many checks may be
inside of each other as there are identities to check, and with more room it takes the same. No
identity is checked twice on it, none of a plain value and none that was found valid before, and no
more checks are inside of each other than there are identities. Over the types of a graph the call
answers what the course comes to. -/
theorem checks_of_finite (hfinite : (Set.range fun r => (look r).identity).Finite)
    (hidle : v.Idle) (r : Ref) :
    ∃ c : Course Ref,
      (∀ limit, (unchecked look v).ncard ≤ limit → course look limit v r = some c) ∧
        (∀ g : Graph Ref, g.node = look → v.validate g r = c.answer) ∧
          (c.checks.map fun check => (look check.target).identity).Nodup ∧
            (∀ check ∈ c.checks, ¬ (look check.target).IsPlain ∧
              (look check.target).identity ∉ v.validated ∧
                check.depth < (unchecked look v).ncard) ∧
              (unchecked look v).ncard ≤ (Set.range fun r => (look r).identity).ncard := by
  obtain ⟨c, hc⟩ := exists_course_of_ncard_le (r := r) hfinite (le_refl (unchecked look v).ncard)
  have hfresh : Fresh look v c := fresh_course hc
  refine ⟨c, fun limit => course_mono hc, ?_, hfresh.nodup, fun check hcheck => ⟨?_, ?_, ?_⟩, ?_⟩
  · rintro g rfl
    have hmatches := matches_course hc
    show (ExceptT.mk (Logged.mk _ _), _) = (ExceptT.mk (Logged.mk _ _), _)
    rw [hmatches.result, hmatches.events, hmatches.after]
  · exact hfresh.compound check hcheck
  · rw [← hidle.knows_iff]
    exact hfresh.unknown _ (List.mem_map_of_mem hcheck)
  · exact depth_lt_of_course hc check hcheck
  · exact Set.ncard_le_ncard unchecked_subset hfinite

/-- Questions and answers in turn, without an end. Each leads to more of the later ones than those
before it, so that the types of one identity all differ. -/
def serial (n : Nat) : Node Nat where
  identity := if n % 2 = 0 then "Question" else "Answer"
  kind := .object
  eligible := true
  elements := (List.range (n + 1)).map fun k => ⟨"reply", false, n + k + 1⟩

/-- The example has two identities. -/
theorem range_serial : (Set.range fun n => (serial n).identity) ⊆ {"Question", "Answer"} := by
  rintro id ⟨n, rfl⟩
  by_cases h : n % 2 = 0 <;> simp [serial, h]

/-- There are infinitely many questions and answers, and one of each is checked, the one inside of
the other. -/
theorem checks_of_finite_serial :
    (Set.range fun n => (serial n).identity).Finite ∧ new.Idle ∧
      ∃ c, (∀ limit, 2 ≤ limit → course serial limit new 0 = some c) ∧ c.result = .ok () ∧
        (c.checks.map fun check => (serial check.target).identity).Nodup ∧
          c.checks = [⟨0, 0⟩, ⟨1, 1⟩] := by
  have hpair : ({"Question", "Answer"} : Set String).Finite := Set.toFinite _
  have hfinite : (Set.range fun n => (serial n).identity).Finite := hpair.subset range_serial
  obtain ⟨c, hcourse, -, hnodup, -, hcard⟩ := checks_of_finite hfinite idle_new 0
  have htwo : (unchecked serial new).ncard ≤ 2 :=
    calc (unchecked serial new).ncard
        ≤ (Set.range fun n => (serial n).identity).ncard := hcard
      _ ≤ ({"Question", "Answer"} : Set String).ncard := Set.ncard_le_ncard range_serial hpair
      _ = 2 := Set.ncard_pair (by decide)
  have hrun : (course serial 2 new 0).map (fun c => (c.result, c.checks)) =
      some (.ok (), [⟨0, 0⟩, ⟨1, 1⟩]) := by rfl
  rw [hcourse 2 htwo] at hrun
  obtain ⟨hresult, hchecks⟩ := Prod.mk.inj (Option.some.inj hrun)
  exact ⟨hfinite, idle_new, c, fun limit hle => hcourse limit (htwo.trans hle), hresult, hnodup,
    hchecks⟩

end Validator

end TypeSchema
