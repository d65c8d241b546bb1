import TypeSchema.Descriptor
import TypeSchema.Log

/-!
# Validation

A descriptor is valid if it and every descriptor it is built from are well formed by themselves:
lists and sets have one element, maps have two and text keys, objects and enumerations have asked
for a schema, and nothing is merely a name. Validation walks the graph depth first, in the order of
the elements, and stops at the first defect.

A validator remembers what it has found valid. During a call it keeps two more sets: the types it is
inside of, and the types it has finished on the assumption that the types around them turn out
well. Only the end of the outermost call decides what becomes of the second set. All three hold
identities, and a type whose identity is in one of them is not walked again; therefore every step
of the walk adds an identity, and the walk ends.
-/

namespace TypeSchema

/-- The step from a descriptor to a part of it: the text that names the step and the part. -/
abbrev Graph.Step (Ref : Type) := String × Ref

/-- What a descriptor needs of others, given that it is well formed by itself: the steps on which
valid types are needed, in order. `look` gives the types of its elements. The type of a map's key is
looked at but not walked, and a value of open shape needs nothing. -/
def Node.steps {Ref : Type} (look : Ref → Node Ref) (node : Node Ref) :
    Except Defect (List (Graph.Step Ref)) :=
  match node.kind with
  | .primitive _ => .ok []
  | .polymorphic => .ok []
  | .list =>
    match node.elements with
    | [item] => .ok [(node.identity, item.target)]
    | _ => .error .listArity
  | .set =>
    match node.elements with
    | [item] => .ok [(node.identity, item.target)]
    | _ => .error .setArity
  | .map =>
    match node.elements with
    | [key, value] =>
      if (look key.target).kind = .primitive .string then .ok [(node.identity, value.target)]
      else .error (.mapKey (look key.target).identity)
    | _ => .error .mapArity
  | .enumeration _ => if node.eligible then .ok [] else .error (.enumNotEligible node.identity)
  | .object =>
    if node.eligible then
      .ok (node.elements.map fun field => (node.identity ++ "." ++ field.name, field.target))
    else .error (.objectNotEligible node.identity)
  | .contextual => .error (.unresolved node.identity)

/-- What a type of a graph needs of others. -/
def Graph.steps {Ref : Type} (g : Graph Ref) (r : Ref) : Except Defect (List (Graph.Step Ref)) :=
  (g.node r).steps g.node

/-- What a validator has seen, by identity. -/
structure Validator where
  /-- The types found valid by earlier calls. -/
  validated : List String := []
  /-- The types the present call is inside of. -/
  visiting : List String := []
  /-- The types the present call has finished. -/
  pending : List String := []
  deriving Repr, DecidableEq

namespace Validator

/-- A validator that has seen nothing. -/
def new : Validator := {}

/-- Has an earlier call found the type valid? -/
def isValidated (v : Validator) (identity : String) : Bool := identity ∈ v.validated

/-- Is there no need to walk the type? -/
def Knows (v : Validator) (identity : String) : Prop :=
  identity ∈ v.validated ∨ identity ∈ v.visiting ∨ identity ∈ v.pending

instance (v : Validator) (identity : String) : Decidable (v.Knows identity) :=
  inferInstanceAs (Decidable (_ ∨ _ ∨ _))

/-- The validator inside a type. -/
def enter (v : Validator) (identity : String) : Validator :=
  { v with visiting := identity :: v.visiting }

/-- The validator at the end of an outermost call: what was finished is valid. -/
def commit (v : Validator) : Validator :=
  if v.visiting.isEmpty then { v with validated := v.validated ++ v.pending, pending := [] } else v

/-- The validator at the end of an outermost call that failed: what was finished is forgotten. -/
def forget (v : Validator) : Validator :=
  if v.visiting.isEmpty then { v with pending := [] } else v

/-- The validator after a type that turned out well. -/
def leave (v : Validator) (identity : String) : Validator :=
  commit { v with visiting := v.visiting.filter (· ≠ identity), pending := identity :: v.pending }

/-- The validator after a type with a defect. -/
def abandon (v : Validator) (identity : String) : Validator :=
  forget { v with visiting := v.visiting.filter (· ≠ identity) }

/-- Inside a type, that type is known as well. -/
@[simp, grind =] theorem knows_enter_iff {v : Validator} {identity id : String} :
    (v.enter identity).Knows id ↔ id = identity ∨ v.Knows id := by
  simp only [Knows, enter, List.mem_cons]
  grind

/-- Making verdicts final changes nothing of what is known. -/
@[simp, grind =]
theorem knows_commit_iff {v : Validator} {id : String} : v.commit.Knows id ↔ v.Knows id := by
  unfold commit
  split
  · next h => simp_all [Knows]
  · rfl

/-- What is known stays known when a type is left. -/
@[grind ←] theorem knows_leave {v : Validator} {identity id : String} (h : v.Knows id) :
    (v.leave identity).Knows id := by
  rw [leave, knows_commit_iff]
  simp only [Knows] at *
  by_cases hid : id = identity
  · simp [hid]
  · rcases h with h | h | h <;> simp [h, hid]

/-! ## The walk -/

/-- The outcome of a walk that began with the validator `v`. A walk that succeeds forgets
nothing. -/
structure Visit (v : Validator) where
  /-- The defect, if the walk met one. -/
  result : Except ValidationError Unit
  /-- The validator after the walk. -/
  after : Validator
  /-- What happened on the walk. -/
  events : List Event
  /-- What was known is known. -/
  knows : result = .ok () → ∀ id, v.Knows id → after.Knows id

namespace Visit

/-- Nothing to walk. -/
def nothing (v : Validator) : Visit v := ⟨.ok (), v, [], fun _ _ h => h⟩

/-- A walk that met a defect. -/
def failed {v : Validator} (e : ValidationError) (after : Validator) (events : List Event) :
    Visit v := ⟨.error e, after, events, fun h => nomatch h⟩

/-- Out of the type that was entered. -/
def leave {v : Validator} (identity : String) (inner : Visit (v.enter identity)) : Visit v :=
  match inner with
  | ⟨.ok (), after, events, knows⟩ =>
    ⟨.ok (), after.leave identity, events,
      fun _ id h => knows_leave (knows rfl id (knows_enter_iff.2 (.inr h)))⟩
  | ⟨.error e, after, events, _⟩ =>
    failed e (after.abandon identity) (events ++ [.descriptorRejected identity e])

/-- One walk after another that succeeded. -/
def followedBy {v after : Validator} (knows : ∀ id, v.Knows id → after.Knows id)
    (events : List Event) (next : Visit after) : Visit v :=
  ⟨next.result, next.after, events ++ next.events,
    fun h id hid => next.knows h id (knows id hid)⟩

end Visit

section

variable {Ref : Type} (g : Graph Ref)

/-- How many references stand for types that are still to be walked. -/
def unknown (v : Validator) : Nat := g.refs.countP fun r => !decide (v.Knows (g.identity r))

/-- When more is known, no more is unknown. -/
theorem unknown_le {v after : Validator} (h : ∀ id, v.Knows id → after.Knows id) :
    unknown g after ≤ unknown g v := by
  refine List.countP_mono_left fun r _ hr => ?_
  simp only [Bool.not_eq_eq_eq_not, Bool.not_true, decide_eq_false_iff_not] at *
  exact fun hk => hr (h _ hk)

/-- A weaker property that holds of one element more is counted more often. -/
theorem countP_lt_of_mem {α : Type} {p q : α → Bool} {l : List α}
    (hle : ∀ a ∈ l, p a → q a) {a : α} (ha : a ∈ l) (hp : p a = false) (hq : q a = true) :
    l.countP p < l.countP q := by
  induction l with
  | nil => simp at ha
  | cons b rest ih =>
    have hrest : rest.countP p ≤ rest.countP q :=
      List.countP_mono_left fun x hx => hle x (List.mem_cons_of_mem _ hx)
    rcases List.mem_cons.1 ha with rfl | hmem
    · simp only [List.countP_cons, hp, hq]
      simp
      omega
    · have hlt := ih (fun x hx => hle x (List.mem_cons_of_mem _ hx)) hmem
      have hb : (if p b = true then 1 else 0) ≤ (if q b = true then 1 else 0 : Nat) := by
        have hpq := hle b List.mem_cons_self
        cases hpb : p b <;> simp_all
      simp only [List.countP_cons]
      omega

/-- Inside a type that was not known there is less that is unknown. -/
theorem unknown_enter_lt {v : Validator} {r : Ref} (h : ¬ v.Knows (g.identity r)) :
    unknown g (v.enter (g.identity r)) < unknown g v := by
  refine countP_lt_of_mem (fun s _ hs => ?_) (g.mem_refs r) ?_ ?_
  · simp only [knows_enter_iff, Bool.not_eq_eq_eq_not, Bool.not_true,
      decide_eq_false_iff_not, not_or] at *
    exact hs.2
  · simp
  · simpa using h

mutual

/-- Walks a type: nothing is to be done for a plain value or a known type. -/
def visit (v : Validator) (r : Ref) : Visit v :=
  if (g.node r).kind.isPrimitive then .nothing v
  else if _hk : v.Knows (g.identity r) then .nothing v
  else
    match g.steps r with
    | .error defect =>
      Visit.leave (g.identity r) (.failed ⟨defect, []⟩ (v.enter (g.identity r)) [])
    | .ok steps => Visit.leave (g.identity r) (visitAll (v.enter (g.identity r)) steps)
termination_by (unknown g v, 0)
decreasing_by exact Prod.Lex.left _ _ (unknown_enter_lt g _hk)

/-- Walks the parts of a type, up to the first defect. -/
def visitAll (v : Validator) : List (Graph.Step Ref) → Visit v
  | [] => .nothing v
  | (segment, r) :: rest =>
    match visit v r with
    | ⟨.error e, after, events, _⟩ => .failed (e.within segment) after events
    | ⟨.ok (), after, events, knows⟩ => .followedBy (knows rfl) events (visitAll after rest)
termination_by steps => (unknown g v, steps.length)
decreasing_by
  · exact Prod.Lex.right _ (Nat.succ_pos _)
  · rcases Nat.lt_or_eq_of_le (unknown_le g (knows rfl)) with hlt | heq
    · exact Prod.Lex.left _ _ hlt
    · rw [heq]
      exact Prod.Lex.right _ (Nat.lt_succ_self _)

end

/-- Validates a type: the defect if there is one, and the validator for the next call. -/
def validate (v : Validator) (r : Ref) : Attempt ValidationError Unit × Validator :=
  let walk := visit g v r
  (ExceptT.mk ⟨walk.result, walk.events⟩, walk.after)

end

end Validator

namespace Graph

/-- Validates a type with a validator that has seen nothing. -/
def validate {Ref : Type} (g : Graph Ref) (r : Ref) : Attempt ValidationError Unit :=
  (Validator.new.validate g r).1

end Graph

end TypeSchema
