import TypeSchema.Log

/-!
# Outcomes of attempts

The outcome of an attempt, events left aside, by the way in which the attempt is put together. What
is proved of outcomes does not have to open the two monads that an attempt is made of.
-/

namespace TypeSchema

/-- Of three steps in a row it does not matter which two are taken together: the events stand in one
order. -/
instance : LawfulMonad Logged := LawfulMonad.mk' Logged
  (fun _ => congrArg (Logged.mk _) (List.append_nil _))
  (fun _ _ => rfl)
  (fun _ _ _ => congrArg (Logged.mk _) (List.append_assoc _ _ _))

namespace Attempt

variable {ε δ α β : Type}

/-- What is simply given succeeds. -/
@[simp] theorem result_pure (a : α) : result (pure a : Attempt ε α) = .ok a := rfl

/-- An error that is raised is the outcome. -/
@[simp] theorem result_throw (e : ε) : result (throw e : Attempt ε α) = .error e := rfl

/-- An event has no part in the outcome. -/
@[simp] theorem result_emit (event : Event) : result (emit event : Attempt ε Unit) = .ok () := rfl

/-- A result that is there already is the outcome. -/
@[simp] theorem result_ofExcept (x : Except ε α) : result (ofExcept x) = x := rfl

/-- Errors are changed in the outcome. -/
@[simp] theorem result_mapError (f : ε → δ) (x : Attempt ε α) :
    result (mapError f x) = x.result.mapError f := by
  cases hx : x.result with
  | ok a => rw [mapError, hx]; rfl
  | error e => rw [mapError, hx]; rfl

/-- One attempt after another: the second has its say if the first succeeds. -/
theorem result_bind (x : Attempt ε α) (f : α → Attempt ε β) :
    result (x >>= f) =
      match x.result with
      | .ok a => (f a).result
      | .error e => .error e := by
  show Logged.value (ExceptT.run (x >>= f)) = _
  simp only [ExceptT.run_bind, result]
  show (match x.run.value with | .ok a => (f a).run | .error e => pure (.error e)).value = _
  cases x.run.value <;> rfl

/-- After an attempt that succeeds, the outcome is that of the second one. -/
theorem result_bind_of_ok {x : Attempt ε α} {a : α} (h : x.result = .ok a)
    (f : α → Attempt ε β) : result (x >>= f) = (f a).result := by
  rw [result_bind, h]

/-- The error of two attempts in turn is that of one of them. -/
theorem result_bind_eq_error_iff {x : Attempt ε α} {f : α → Attempt ε β} {e : ε} :
    result (x >>= f) = .error e ↔
      x.result = .error e ∨ ∃ a, x.result = .ok a ∧ (f a).result = .error e := by
  rw [result_bind]
  cases x.result <;> simp

/-- Two attempts in turn succeed if both do. -/
theorem result_bind_eq_ok_iff {x : Attempt ε α} {f : α → Attempt ε β} {b : β} :
    result (x >>= f) = .ok b ↔ ∃ a, x.result = .ok a ∧ (f a).result = .ok b := by
  rw [result_bind]
  cases x.result <;> simp

end Attempt

end TypeSchema
