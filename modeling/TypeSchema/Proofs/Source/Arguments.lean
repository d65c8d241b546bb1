import TypeSchema.Proofs.Source.Spelling
import TypeSchema.Source.Grammar.Path

/-!
# Reading type arguments

A list in angle brackets is read part by part. Where every part is a type, what is kept is the types
in their order, and the list is written again with commas that stand alone.

* `ReadsType` is what is asked of a parser of types, and `run_genericArgument` is what follows for
  one argument.
* `run_angleSteps` is the loop, by induction on the arguments, and `run_angleList` **the whole list**.
-/

namespace TypeSchema.Source.Grammar

open TypeSchema.Source.Parser

variable {rules : Rules}

/-! ### One argument -/

/-- Does a parser read a type from tokens, whatever follows the type? -/
def ReadsType (p : Parser TypeSyntax) (tokens : List Token) (t : TypeSyntax) : Prop :=
  ∀ rest, EndsType rest → ∀ taken complete,
    p.run { rest := tokens ++ rest, taken, complete } =
      some (t, { rest, taken := t.written.reverse ++ taken, complete })

/-- A type that has been read is an argument. Nothing that could make it a name with a value or with
bounds follows. -/
theorem run_genericArgument {tokens : List Token} {t : TypeSyntax} (hopens : OpensType tokens)
    (hreads : ReadsType (rules.type true) tokens t) {rest : List Token} (hends : EndsType rest)
    (taken : List Token) (complete : Bool) :
    (genericArgument rules).run { rest := tokens ++ rest, taken, complete } =
      some ((false, .type t), { rest, taken := t.written.reverse ++ taken, complete }) := by
  have hlifetime : startsLifetime (tokens ++ rest) = false := by cases hopens <;> rfl
  have hbrace : startsGroup .brace (tokens ++ rest) = false := by cases hopens <;> rfl
  have hvalue : startsValue (tokens ++ rest) = false := by
    cases hopens with
    | word h more => exact not_startsValue_of_isModule h _
    | colon | bracket => rfl
  have hequals : startsOperator "=" rest = false :=
    not_startsOperator_of_endsType rfl hends
  have hcolon : startsOperator ":" rest = false :=
    not_startsOperator_of_endsType rfl hends
  have hrest : ∀ taken, (argumentRest rules).run { rest, taken, complete } =
      some (false, { rest, taken, complete }) := by
    intro taken
    rw [argumentRest, run_bind_of_eq (run_operator?_of_not hequals)]
    simp only [Bool.false_eq_true, if_false]
    rw [run_bind_of_eq (run_operator?_of_not hcolon)]
    rfl
  rw [genericArgument, run_bind_peek]
  simp only [hlifetime, Bool.false_and, Bool.false_eq_true, if_false, run_bind_peek, hvalue, hbrace,
    Bool.or_false]
  rw [run_bind_of_eq (hreads rest hends taken complete)]
  split
  · rw [run_bind_of_eq (hrest _)]
    rfl
  · rfl

/-- A step through a list in angle brackets. -/
def angleStep {α : Type} (part : Parser (Bool × α)) (read : List (Bool × α × List Token × Bool)) :
    Parser (List (Bool × α × List Token × Bool) ⊕ List (Bool × α × List Token × Bool)) := do
  if ← peekOperator ">" then return .inr read.reverse
  let ((isLifetime, a), tokens) ← aside part
  if ← peekOperator ">" then return .inr ((isLifetime, a, tokens, false) :: read).reverse
  operator ","
  return .inl ((isLifetime, a, tokens, true) :: read)

/-- A type argument as a part of such a list. -/
def partOf (a : TypeArgument) (comma : Bool) : Bool × ArgumentSyntax × List Token × Bool :=
  (false, .type a.type, a.type.written, comma)

/-- Type arguments as parts of such a list. -/
def partsOf (trailing : Bool) : List TypeArgument → List (Bool × ArgumentSyntax × List Token × Bool)
  | [] => []
  | [a] => [partOf a trailing]
  | a :: b :: rest => partOf a true :: partsOf trailing (b :: rest)

section

variable {read : List (Bool × ArgumentSyntax × List Token × Bool)} {tokens : List Token}
  {t : TypeSyntax} (hopens : OpensType tokens) (hreads : ReadsType (rules.type true) tokens t)

include hopens hreads

/-- One argument is read, up to where its type ends. -/
theorem run_angleStep_part {rest : List Token} (hends : EndsType rest) (taken : List Token)
    (complete : Bool) :
    (angleStep (genericArgument rules) read).run { rest := tokens ++ rest, taken, complete } =
      (do
        if startsOperator ">" rest then return .inr ((false, .type t, t.written, false) :: read).reverse
        operator ","
        return .inl ((false, .type t, t.written, true) :: read) :
          Parser (List (Bool × ArgumentSyntax × List Token × Bool) ⊕
            List (Bool × ArgumentSyntax × List Token × Bool))).run { rest, taken, complete } := by
  have hstop : startsOperator ">" (tokens ++ rest) = false := by
    cases hopens <;> rfl
  have hpart := run_genericArgument hopens hreads hends [] complete
  rw [List.append_nil] at hpart
  rw [angleStep, run_bind_peekOperator, hstop]
  simp only [Bool.false_eq_true, if_false]
  rw [run_bind_of_eq (run_aside hpart taken), run_bind_peekOperator]

/-- A step takes one type argument with the comma after it. -/
theorem run_angleStep_next (joint : Bool) (rest taken : List Token) (complete : Bool) :
    (angleStep (genericArgument rules) read).run
        { rest := tokens ++ .punct ',' joint :: rest, taken, complete } =
      some (.inl ((false, .type t, t.written, true) :: read),
        { rest, taken := .punct ',' false :: taken, complete }) := by
  rw [run_angleStep_part hopens hreads (.comma joint rest)]
  exact run_bind_of_eq (run_operator rfl joint rest taken complete)

/-- The last step takes a type argument that no comma follows. -/
theorem run_angleStep_last (greater : Bool) (rest taken : List Token) (complete : Bool) :
    (angleStep (genericArgument rules) read).run
        { rest := tokens ++ .punct '>' greater :: rest, taken, complete } =
      some (.inr ((false, .type t, t.written, false) :: read).reverse,
        { rest := .punct '>' greater :: rest, taken, complete }) := by
  rw [run_angleStep_part hopens hreads (.greater greater rest)]
  rfl

end

/-- The list is at its end. -/
theorem run_angleStep_end (read : List (Bool × ArgumentSyntax × List Token × Bool)) (greater : Bool)
    (rest taken : List Token) (complete : Bool) :
    (angleStep (genericArgument rules) read).run
        { rest := .punct '>' greater :: rest, taken, complete } =
      some (.inr read.reverse, { rest := .punct '>' greater :: rest, taken, complete }) := rfl

/-- The parts of a list of type arguments are read one after the other. -/
theorem run_angleSteps {arguments : List TypeArgument} (hsome : arguments ≠ [])
    (hopens : ∀ a ∈ arguments, OpensType a.tokens)
    (hreads : ∀ a ∈ arguments, ReadsType (rules.type true) a.tokens a.type)
    (trailing greater : Bool) (rest : List Token) (complete : Bool) {fuel : Nat}
    (hfuel : arguments.length < fuel) (read : List (Bool × ArgumentSyntax × List Token × Bool))
    (taken : List Token) :
    ∃ taken', (repeatFrom (angleStep (genericArgument rules)) fuel read).run
        { rest := TypeArgument.listTokens trailing arguments ++ .punct '>' greater :: rest, taken,
          complete } =
      some (read.reverse ++ partsOf trailing arguments,
        { rest := .punct '>' greater :: rest, taken := taken', complete }) := by
  induction arguments generalizing fuel read taken with
  | nil => exact absurd rfl hsome
  | cons a more ih =>
    obtain ⟨fuel, rfl⟩ := Nat.exists_eq_add_one_of_ne_zero (Nat.ne_of_gt (Nat.zero_lt_of_lt hfuel))
    have hopen := hopens a List.mem_cons_self
    have hread := hreads a List.mem_cons_self
    have hless : more.length < fuel := Nat.lt_of_succ_lt_succ hfuel
    cases more with
    | nil =>
      cases trailing with
      | false =>
        rw [TypeArgument.listTokens, if_neg Bool.false_ne_true, List.append_nil,
          run_repeatFrom_last fuel (run_angleStep_last hopen hread greater rest taken complete)]
        exact ⟨taken, by rw [List.reverse_cons]; rfl⟩
      | true =>
        -- After the trailing comma it takes one more step to see that the list is at its end.
        obtain ⟨fuel, rfl⟩ := Nat.exists_eq_add_one_of_ne_zero (Nat.ne_of_gt hless)
        rw [TypeArgument.listTokens, if_pos rfl, List.append_assoc, List.singleton_append,
          run_repeatFrom_next (fuel + 1) (run_angleStep_next hopen hread a.joint _ taken complete),
          run_repeatFrom_last fuel (run_angleStep_end _ greater rest _ complete)]
        exact ⟨_, by rw [List.reverse_cons]; rfl⟩
    | cons b rest =>
      rw [TypeArgument.listTokens, List.append_assoc, List.cons_append,
        run_repeatFrom_next fuel (run_angleStep_next hopen hread a.joint _ taken complete)]
      obtain ⟨taken', hrun⟩ := ih (List.cons_ne_nil b rest)
        (fun c hc => hopens c (List.mem_cons_of_mem a hc))
        (fun c hc => hreads c (List.mem_cons_of_mem a hc)) hless _ _
      refine ⟨taken', hrun.trans ?_⟩
      rw [List.reverse_cons, List.append_assoc]
      rfl

/-- The parts of a list are its arguments. -/
@[simp] theorem map_snd_partsOf (trailing : Bool) (arguments : List TypeArgument) :
    (partsOf trailing arguments).map (fun (_, a, _, _) => a) =
      arguments.map fun a => .type a.type := by
  induction arguments with
  | nil => rfl
  | cons a more ih =>
    cases more with
    | nil => rfl
    | cons b rest => exact congrArg (ArgumentSyntax.type a.type :: ·) ih

/-- No part of a list of types is a lifetime. -/
theorem fst_of_mem_partsOf {trailing : Bool} {arguments : List TypeArgument}
    {part : Bool × ArgumentSyntax × List Token × Bool} (h : part ∈ partsOf trailing arguments) :
    part.1 = false := by
  induction arguments with
  | nil => exact absurd h List.not_mem_nil
  | cons a more ih =>
    cases more with
    | nil =>
      rw [List.mem_singleton.1 h]
      rfl
    | cons b rest =>
      rcases List.mem_cons.1 h with rfl | h
      · rfl
      · exact ih h

/-- One part of a list with commas is written after those before it. -/
def writePart (acc : List Token × Bool) (part : Bool × List Token × Bool) : List Token × Bool :=
  (acc.1 ++ (if acc.2 then [] else Token.operator ",") ++ part.2.1 ++
    (if part.2.2 then Token.operator "," else []), part.2.2)

/-- The parts are written as the list is, with a comma at its end if it had one. -/
theorem fst_foldl_writePart (trailing : Bool) (arguments : List TypeArgument) (acc : List Token) :
    (((partsOf trailing arguments).map
        fun (isLifetime, _, tokens, comma) => (isLifetime, tokens, comma)).foldl writePart
          (acc, true)).1 =
      acc ++ TypeArgument.listTokens trailing (arguments.map TypeArgument.again) := by
  induction arguments generalizing acc with
  | nil => exact (List.append_nil acc).symm
  | cons a more ih =>
    cases more with
    | nil =>
      cases trailing <;> simp [partsOf, partOf, writePart, TypeArgument.listTokens,
        TypeArgument.again, Token.operator, Token.operatorChars]
    | cons b rest =>
      refine (ih _).trans ?_
      simp [partOf, TypeArgument.listTokens, TypeArgument.again, Token.operator,
        Token.operatorChars]

/-- No lifetimes are put first where all arguments are types. -/
theorem lifetimesFirst_partsOf (trailing : Bool) (arguments : List TypeArgument) :
    lifetimesFirst ((partsOf trailing arguments).map
        fun (isLifetime, _, tokens, comma) => (isLifetime, tokens, comma)) =
      TypeArgument.listTokens trailing (arguments.map TypeArgument.again) := by
  have htypes : ∀ part ∈ (partsOf trailing arguments).map
      (fun (isLifetime, _, tokens, comma) => (isLifetime, tokens, comma)), part.1 = false := by
    intro part hpart
    obtain ⟨_, hmem, rfl⟩ := List.mem_map.1 hpart
    exact fst_of_mem_partsOf hmem
  unfold lifetimesFirst
  rw [List.filter_eq_nil_iff.2 (by simpa using htypes), List.filter_eq_self.2 (by simpa using htypes)]
  exact fst_foldl_writePart trailing arguments []

/-- There is at least one token for each argument after the first. -/
theorem length_le_listTokens (trailing : Bool) (arguments : List TypeArgument) :
    arguments.length ≤ (TypeArgument.listTokens trailing arguments).length + 1 := by
  induction arguments with
  | nil => exact Nat.zero_le _
  | cons a more ih =>
    cases more with
    | nil => simp
    | cons b rest =>
      simp only [TypeArgument.listTokens, List.length_append, List.length_cons] at ih ⊢
      omega

/-- **A list of type arguments** is read, and written again without joints. -/
theorem run_angleList {arguments : List TypeArgument} (hsome : arguments ≠ [])
    (hopens : ∀ a ∈ arguments, OpensType a.tokens)
    (hreads : ∀ a ∈ arguments, ReadsType (rules.type true) a.tokens a.type)
    (less trailing greater : Bool) (rest taken : List Token) (complete : Bool) :
    (angleList (genericArgument rules)).run
        { rest := .punct '<' less ::
            (TypeArgument.listTokens trailing arguments ++ .punct '>' greater :: rest),
          taken, complete } =
      some (arguments.map fun a => .type a.type,
        { rest, taken := (Token.operator "<" ++
            TypeArgument.listTokens trailing (arguments.map TypeArgument.again) ++
              Token.operator ">").reverse ++ taken, complete }) := by
  have hread : ∃ written, (do
      operator "<"
      let parts ← iterate (angleStep (genericArgument rules)) []
      operator ">"
      return parts : Parser _).run
        { rest := .punct '<' less ::
            (TypeArgument.listTokens trailing arguments ++ .punct '>' greater :: rest), complete } =
      some (partsOf trailing arguments, { rest, taken := List.reverse written, complete }) := by
    rw [run_bind_of_eq (run_operator rfl less _ [] complete)]
    have hfuel : arguments.length <
        (TypeArgument.listTokens trailing arguments ++ .punct '>' greater :: rest).length + 1 := by
      have hlength := length_le_listTokens trailing arguments
      simp only [List.length_append, List.length_cons]
      omega
    obtain ⟨taken', hsteps⟩ := run_angleSteps hsome hopens hreads trailing greater rest complete
      hfuel [] [.punct '<' false]
    refine ⟨(.punct '>' false :: taken').reverse, ?_⟩
    rw [List.reverse_reverse, run_bind_of_eq ((run_iterate _ _ _).trans hsteps),
      run_bind_of_eq (run_operator rfl greater rest taken' complete)]
    rfl
  obtain ⟨written, hread⟩ := hread
  refine (run_bind_of_eq (run_aside hread taken)).trans ?_
  simp only []
  rw [lifetimesFirst_partsOf, map_snd_partsOf]
  rfl

end TypeSchema.Source.Grammar
