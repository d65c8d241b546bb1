import TypeSchema.Source.Parser

/-!
# Runs of parsers

What a parser does is said of its runs: the state that it starts from, and the value and the state
that it ends with, if it does not fail.
-/

namespace TypeSchema.Source

/-- An operator stands at the front with its first character. -/
theorem eq_cons_of_startsChars (c : Char) (more : List Char) {tokens : List Token}
    (h : startsChars (c :: more) tokens = true) :
    ∃ joint rest, tokens = .punct c joint :: rest := by
  cases tokens with
  | nil => cases more <;> cases h
  | cons token rest =>
    cases token with
    | punct d joint =>
      have hchar : (c == d) = true := by
        cases more with
        | nil => exact h
        | cons => exact (Bool.and_eq_true_iff.1 (Bool.and_eq_true_iff.1 h).1).1
      exact ⟨joint, rest, by rw [beq_iff_eq.1 hchar]⟩
    | word | lifetime | literal | group => cases more <;> cases h

namespace Parser

variable {α β : Type} {s s' after : ParseState}

/-- One parser after another. -/
theorem run_bind_eq_some_iff {p : Parser α} {f : α → Parser β} {r : β × ParseState} :
    (p >>= f).run s = some r ↔ ∃ a s', p.run s = some (a, s') ∧ (f a).run s' = some r :=
  Option.bind_eq_some_iff.trans Prod.exists

/-- A value that is dropped was there. -/
theorem run_discard_eq_some {p : Parser α} {u : Unit}
    (h : (discard p).run s = some (u, after)) : ∃ a, p.run s = some (a, after) := by
  have hbind : (p >>= fun _ => (pure () : Parser Unit)).run s = some (u, after) := h
  obtain ⟨a, s', hp, h⟩ := run_bind_eq_some_iff.1 hbind
  cases h
  exact ⟨a, hp⟩

/-- A condition that was ensured holds, and nothing was read. -/
theorem run_ensure_eq_some {condition : Bool} {u : Unit}
    (h : (ensure condition).run s = some (u, after)) : condition = true ∧ s = after := by
  cases condition <;> cases h
  exact ⟨rfl, rfl⟩

/-- An operator that does not stand at the front is not taken. -/
theorem run_operator?_of_not {op : String} (h : startsOperator op s.rest = false) :
    (operator? op).run s = some (false, s) := by
  refine run_bind_eq_some_iff.2 ⟨false, s, by rw [← h]; rfl, ?_⟩
  rfl

/-- A word that is taken is the first token. -/
theorem run_word_eq_some {name : String} {u : Unit} (h : (word name).run s = some (u, after)) :
    anyWord.run s = some ({ name }, after) := by
  obtain ⟨_, _, hpeek, h⟩ := run_bind_eq_some_iff.1 h
  cases hpeek
  obtain ⟨_, _, hensure, h⟩ := run_bind_eq_some_iff.1 h
  obtain ⟨hstarts, rfl⟩ := run_ensure_eq_some hensure
  obtain ⟨id, hword⟩ := run_discard_eq_some h
  obtain ⟨rest, taken, complete⟩ := s
  cases rest with
  | nil => cases hstarts
  | cons token more =>
    cases token with
    | word word raw =>
      obtain ⟨hraw, hname⟩ := Bool.and_eq_true_iff.1 hstarts
      rw [Bool.not_eq_true'] at hraw
      rw [hword, ← beq_iff_eq.1 hname, ← hraw]
      cases hword
      rfl
    | punct | lifetime | literal | group => cases hstarts

/-- A loop may take as many steps as there are tokens, and one more. -/
theorem run_iterate (step : α → Parser (α ⊕ β)) (a : α) (s : ParseState) :
    (iterate step a).run s = (repeatFrom step (s.rest.length + 1) a).run s := rfl

/-- What every step keeps holds of the result. -/
theorem repeatFrom_induct {step : α → Parser (α ⊕ β)} {P : α → Prop} {Q : β → Prop}
    (hnext : ∀ a s a' s', P a → (step a).run s = some (.inl a', s') → P a')
    (hlast : ∀ a s b s', P a → (step a).run s = some (.inr b, s') → Q b) {fuel : Nat} {a : α}
    (ha : P a) {b : β} (h : (repeatFrom step fuel a).run s = some (b, after)) : Q b := by
  induction fuel generalizing a s with
  | zero => cases h
  | succ fuel ih =>
    obtain ⟨x, s', hstep, h⟩ := run_bind_eq_some_iff.1 h
    cases x with
    | inl a' => exact ih (hnext a s a' s' ha hstep) h
    | inr b' =>
      cases h
      exact hlast a s b _ ha hstep

/-- A step through a list with commas. -/
def listStep (stop : List Token → Bool) (p : Parser α) (read : List α) :
    Parser (List α ⊕ List α) := do
  if ← peek stop then return .inr read.reverse
  let read := (← p) :: read
  if ← peek stop then return .inr read.reverse
  operator ","
  return .inl read

/-- A step stops before a part, or it reads one. -/
theorem run_listStep_cases {stop : List Token → Bool} {p : Parser α} {read : List α}
    {x : List α ⊕ List α} (h : (listStep stop p read).run s = some (x, after)) :
    (stop s.rest = true ∧ x = .inr read.reverse) ∨
      ∃ a s', p.run s = some (a, s') ∧ (x = .inr (a :: read).reverse ∨ x = .inl (a :: read)) := by
  obtain ⟨_, _, hpeek, h⟩ := run_bind_eq_some_iff.1 h
  cases hpeek
  split at h
  · next hstop =>
    cases h
    exact .inl ⟨hstop, rfl⟩
  · obtain ⟨a, s', hpart, h⟩ := run_bind_eq_some_iff.1 h
    refine .inr ⟨a, s', hpart, ?_⟩
    obtain ⟨_, _, hpeek, h⟩ := run_bind_eq_some_iff.1 h
    cases hpeek
    split at h
    · cases h
      exact .inl rfl
    · obtain ⟨_, _, -, h⟩ := run_bind_eq_some_iff.1 h
      cases h
      exact .inr rfl

/-- A list that is read to the end is empty, or it has a first part. -/
theorem run_listToEnd_cases {p : Parser α} {values : List α}
    (h : (listToEnd p).run s = some (values, after)) :
    (s.rest = [] ∧ values = []) ∨ ((∃ a s', p.run s = some (a, s')) ∧ values ≠ []) := by
  have hrun : (repeatFrom (listStep List.isEmpty p) (s.rest.length + 1) []).run s =
      some (values, after) := h
  obtain ⟨x, s', hstep, hrest⟩ := run_bind_eq_some_iff.1 hrun
  obtain ⟨hempty, rfl⟩ | ⟨a, s₁, hpart, rfl | rfl⟩ := run_listStep_cases hstep
  · cases hrest
    exact .inl ⟨List.isEmpty_iff.1 hempty, rfl⟩
  · cases hrest
    exact .inr ⟨⟨a, s₁, hpart⟩, nofun⟩
  · -- Once a part is read, the list does not become empty again.
    refine .inr ⟨⟨a, s₁, hpart⟩, ?_⟩
    refine repeatFrom_induct (P := (· ≠ [])) (Q := (· ≠ [])) (fun read s read' s' hread hstep => ?_)
      (fun read s values s' hread hstep => ?_) (List.cons_ne_nil a []) hrest
    · obtain ⟨-, hx⟩ | ⟨b, _, -, hx | hx⟩ := run_listStep_cases hstep <;> cases hx
      exact List.cons_ne_nil b read
    · obtain ⟨-, hx⟩ | ⟨b, _, -, hx | hx⟩ := run_listStep_cases hstep <;> cases hx
      · simpa using hread
      · simp

/-! ### Runs that succeed -/

section

variable {α β : Type} {s s' : ParseState}

/-- A run goes on with the value of the first parser, where that ended. -/
theorem run_bind_of_eq {p : Parser α} {f : α → Parser β} {a : α} (h : p.run s = some (a, s')) :
    (p >>= f).run s = (f a).run s' := by
  rw [run_bind, h]
  rfl

/-- Dropping a value does not change what is read. -/
theorem run_discard {p : Parser α} {a : α} (h : p.run s = some (a, s')) :
    (discard p).run s = some ((), s') :=
  run_bind_of_eq (f := fun _ => (pure () : Parser Unit)) h

/-- A look at the front changes nothing. -/
theorem run_bind_peek (test : List Token → Bool) (f : Bool → Parser β) (s : ParseState) :
    (peek test >>= f).run s = (f (test s.rest)).run s := rfl

/-- A look for an operator changes nothing. -/
theorem run_bind_peekOperator (op : String) (f : Bool → Parser β) (s : ParseState) :
    (peekOperator op >>= f).run s = (f (startsOperator op s.rest)).run s := rfl

/-- A look for a word changes nothing. -/
theorem run_bind_peekWord (word : String) (f : Bool → Parser β) (s : ParseState) :
    (peekWord word >>= f).run s = (f (startsWord word s.rest)).run s := rfl

/-- A look for a group changes nothing. -/
theorem run_bind_peekGroup (delimiter : Delimiter) (f : Bool → Parser β) (s : ParseState) :
    (peekGroup delimiter >>= f).run s = (f (startsGroup delimiter s.rest)).run s := rfl

/-- A word that does not stand at the front is not taken. -/
theorem run_word?_of_not {name : String} (h : startsWord name s.rest = false) :
    (word? name).run s = some (false, s) := by
  rw [word?, run_bind_peekWord, h]
  rfl

/-- A word is read, and written as it stands. -/
@[simp] theorem run_anyWord (id : Identifier) (rest taken : List Token) (complete : Bool) :
    anyWord.run { rest := id.token :: rest, taken, complete } =
      some (id, { rest, taken := id.token :: taken, complete }) := rfl

/-- An operator of one character is written again without a joint. -/
theorem run_operator {op : String} {c : Char} (hop : op.toList = [c]) (joint : Bool)
    (rest taken : List Token) (complete : Bool) :
    (operator op).run { rest := .punct c joint :: rest, taken, complete } =
      some ((), { rest, taken := .punct c false :: taken, complete }) := by
  have hstarts : startsOperator op (.punct c joint :: rest) = true := by
    simp [startsOperator, hop, startsChars]
  have hlength : op.length = 1 := by
    rw [← String.length_toList, hop]
    rfl
  have hwritten : Token.operator op = [.punct c false] := by
    rw [Token.operator, hop]
    rfl
  rw [operator, run_bind_peekOperator, hstarts, hlength, hwritten]
  rfl

/-- A double colon is read, and written as it stands. -/
@[simp] theorem run_doubleColon (rest taken : List Token) (complete : Bool) :
    (operator "::").run { rest := Token.operator "::" ++ rest, taken, complete } =
      some ((), { rest, taken := (Token.operator "::").reverse ++ taken, complete }) := rfl

/-- What is read aside is not written; its tokens are given with its value. -/
theorem run_aside {p : Parser α} {a : α} {rest rest' written : List Token} {complete : Bool}
    (h : p.run { rest, complete } = some (a, { rest := rest', taken := written.reverse, complete }))
    (taken : List Token) :
    (aside p).run { rest, taken, complete } =
      some ((a, written), { rest := rest', taken, complete }) := by
  simp [aside, h]

/-- What is captured is written, and its tokens are given with its value. -/
theorem run_capture {p : Parser α} {a : α} {rest rest' written : List Token} {complete : Bool}
    (h : p.run { rest, complete } = some (a, { rest := rest', taken := written.reverse, complete }))
    (taken : List Token) :
    (capture p).run { rest, taken, complete } =
      some ((a, written), { rest := rest', taken := written.reverse ++ taken, complete }) := by
  rw [capture, run_bind_of_eq (run_aside h taken)]
  rfl

/-- A group is read by its own parser, to the end. -/
theorem run_group {p : Parser α} {a : α} {tokens written : List Token} (delimiter : Delimiter)
    (h : p.run { rest := tokens } = some (a, { rest := [], taken := written.reverse }))
    (rest taken : List Token) (complete : Bool) :
    (group delimiter p).run { rest := .group delimiter tokens :: rest, taken, complete } =
      some (a, { rest, taken := .group delimiter written :: taken, complete }) := by
  simp [group, h]

/-- A loop goes on where its step ended, unless the step was the last one. -/
theorem run_repeatFrom_next {step : α → Parser (α ⊕ β)} {a a' : α} (fuel : Nat)
    (h : (step a).run s = some (.inl a', s')) :
    (repeatFrom step (fuel + 1) a).run s = (repeatFrom step fuel a').run s' :=
  run_bind_of_eq h

/-- A loop ends with its last step. -/
theorem run_repeatFrom_last {step : α → Parser (α ⊕ β)} {a : α} {b : β} (fuel : Nat)
    (h : (step a).run s = some (.inr b, s')) :
    (repeatFrom step (fuel + 1) a).run s = some (b, s') :=
  run_bind_of_eq h

end

end Parser

end TypeSchema.Source
