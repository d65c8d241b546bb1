import TypeSchema.Proofs.Source.Parser
import TypeSchema.Source.Meta

/-!
# The keys of an attribute

What an attribute lists: keys with commas between them and perhaps one at the end. A key is a path,
by itself, with a value after an equals sign or with tokens in parentheses. Only the path is looked
at, so all else has to be passed over to its end for the next key to be found.

* `SpellsKeys` relates tokens to the keys that they list. What an expression is, `IsExpression`
  takes from the rule of expressions and from what follows.
* `Attribute.Lists.keys_eq`: of an attribute that lists keys, **all keys are read**, and all of the
  attribute.
-/

namespace TypeSchema.Source

/-! ### What is written -/

/-- A double colon; the next token may be joint to it. -/
def doubleColon (joint : Bool) : List Token := [.punct ':' true, .punct ':' joint]

/-- The tokens of words with double colons between them. -/
inductive SpellsPath : List Token → List Identifier → Prop where
  /-- One word. -/
  | last (id : Identifier) : SpellsPath [id.token] [id]
  /-- A word that others follow. -/
  | next (id : Identifier) (joint : Bool) {tokens : List Token} {path : List Identifier}
      (hrest : SpellsPath tokens path) :
      SpellsPath (id.token :: (doubleColon joint ++ tokens)) (id :: path)

/-- The tokens of a key, without what may follow its path. -/
inductive SpellsKey : List Token → AttributeKey → Prop where
  /-- A path. -/
  | bare {tokens : List Token} {path : List Identifier} (hpath : SpellsPath tokens path) :
      SpellsKey tokens { path }
  /-- A path that starts with a double colon. -/
  | rooted (joint : Bool) {tokens : List Token} {path : List Identifier}
      (hpath : SpellsPath tokens path) :
      SpellsKey (doubleColon joint ++ tokens) { rooted := true, path }

/-- Are the tokens an expression where others follow? The rule of expressions takes all of them,
groups to their ends, and none of the others. -/
def IsExpression (rules : Rules) (tokens rest : List Token) : Prop :=
  ∃ form taken, rules.expression.run { rest := tokens ++ rest } = some (form, { rest, taken })

/-- The tokens that may stand between the path of a key and those that follow the key. -/
inductive SpellsValue (rules : Rules) (rest : List Token) : List Token → Prop where
  /-- Nothing. -/
  | none : SpellsValue rules rest []
  /-- An expression. -/
  | expression (joint : Bool) (tokens : List Token) (h : IsExpression rules tokens rest) :
      SpellsValue rules rest (.punct '=' joint :: tokens)
  /-- Any tokens in parentheses. -/
  | list (tokens : List Token) : SpellsValue rules rest [.group .parenthesis tokens]

/-- The tokens of keys with commas between them, and perhaps after the last. -/
inductive SpellsKeys (rules : Rules) : List Token → List AttributeKey → Prop where
  /-- No keys. -/
  | nil : SpellsKeys rules [] []
  /-- A key at the end. -/
  | last {path value : List Token} {key : AttributeKey} (hkey : SpellsKey path key)
      (hvalue : SpellsValue rules [] value) : SpellsKeys rules (path ++ value) [key]
  /-- A key before a comma. -/
  | next {path value rest : List Token} {key : AttributeKey} {keys : List AttributeKey}
      (hkey : SpellsKey path key) (joint : Bool)
      (hvalue : SpellsValue rules (.punct ',' joint :: rest) value)
      (hrest : SpellsKeys rules rest keys) :
      SpellsKeys rules (path ++ (value ++ .punct ',' joint :: rest)) (key :: keys)

/-- Does the attribute list the given keys, with expressions by the rules that it is read with? -/
def Attribute.Lists (a : Attribute) (keys : List AttributeKey) : Prop :=
  ∃ tokens, a.body = .list tokens ∧
    SpellsKeys (Rules.build (16 * (Token.sizes tokens + 1))) tokens keys

/-- A path is spelled with at least one token. -/
theorem SpellsPath.ne_nil {tokens : List Token} {path : List Identifier}
    (h : SpellsPath tokens path) : tokens ≠ [] := by
  cases h <;> exact List.cons_ne_nil _ _

/-- A key is spelled with at least one token. -/
theorem SpellsKey.ne_nil {tokens : List Token} {key : AttributeKey} (h : SpellsKey tokens key) :
    tokens ≠ [] := by
  cases h with
  | bare hpath => exact hpath.ne_nil
  | rooted => exact List.cons_ne_nil _ _

/-- No tokens list no keys. -/
theorem SpellsKeys.eq_nil {rules : Rules} {tokens : List Token} {keys : List AttributeKey}
    (h : SpellsKeys rules tokens keys) (hempty : tokens = []) : keys = [] := by
  cases h with
  | nil => rfl
  | last hkey => exact absurd (List.append_eq_nil_iff.1 hempty).1 hkey.ne_nil
  | next hkey => exact absurd (List.append_eq_nil_iff.1 hempty).1 hkey.ne_nil

/-- What may follow a key. -/
inductive EndsKey : List Token → Prop where
  /-- Nothing. -/
  | nil : EndsKey []
  /-- A comma. -/
  | comma (joint : Bool) (rest : List Token) : EndsKey (.punct ',' joint :: rest)

/-- A literal by itself is an expression. -/
theorem isExpression_literal (depth : Nat) (text : String) {rest : List Token}
    (hends : EndsKey rest) : IsExpression (Rules.build (depth + 2)) [.literal text] rest := by
  cases hends with
  | nil => exact ⟨_, _, rfl⟩
  | comma => exact ⟨_, _, rfl⟩

namespace Grammar

open TypeSchema.Source.Parser

variable {rules : Rules} {tokens rest : List Token}

/-! ### Paths -/

/-- One word of a path, with the double colon after it. -/
def keyStep (read : List Identifier) : Parser (List Identifier ⊕ List Identifier) := do
  let read := (← anyWord) :: read
  if ← operator? "::" then return .inl read else return .inr read.reverse

/-- Without a double colon after it, an identifier is the last one. -/
theorem run_keyStep_last (read : List Identifier) (id : Identifier)
    (hrest : startsOperator "::" rest = false) (taken : List Token) (complete : Bool) :
    (keyStep read).run { rest := id.token :: rest, taken, complete } =
      some (.inr (read.reverse ++ [id]), { rest, taken := id.token :: taken, complete }) := by
  rw [keyStep, run_bind_of_eq (run_anyWord id rest taken complete),
    run_bind_of_eq (run_operator?_of_not hrest), List.reverse_cons]
  rfl

/-- After an identifier with a double colon one more is read. -/
theorem run_keyStep_next (read : List Identifier) (id : Identifier) (joint : Bool)
    (rest taken : List Token) (complete : Bool) :
    ∃ after, (keyStep read).run
        { rest := id.token :: (doubleColon joint ++ rest), taken, complete } =
      some (.inl (id :: read), { rest, taken := after, complete }) := by
  rw [keyStep, run_bind_of_eq (run_anyWord id _ taken complete)]
  exact ⟨_, rfl⟩

/-- The words of a path are read one by one. -/
theorem run_keySteps {path : List Identifier} (h : SpellsPath tokens path)
    (hrest : startsOperator "::" rest = false) {fuel : Nat} (hfuel : tokens.length < fuel)
    (read : List Identifier) (taken : List Token) (complete : Bool) :
    ∃ after, (repeatFrom keyStep fuel read).run { rest := tokens ++ rest, taken, complete } =
      some (read.reverse ++ path, { rest, taken := after, complete }) := by
  obtain ⟨fuel, rfl⟩ : ∃ lower, fuel = lower + 1 := Nat.exists_eq_add_one.2 (by omega)
  induction h generalizing fuel read taken with
  | last id =>
    exact ⟨_, run_repeatFrom_last fuel (run_keyStep_last read id hrest taken complete)⟩
  | @next id joint tokens path hpath ih =>
    rw [List.length_cons, List.length_append] at hfuel
    obtain ⟨fuel, rfl⟩ : ∃ lower, fuel = lower + 1 := Nat.exists_eq_add_one.2 (by omega)
    obtain ⟨between, hstep⟩ := run_keyStep_next read id joint (tokens ++ rest) taken complete
    obtain ⟨after, hsteps⟩ := ih (id :: read) between fuel (by omega)
    refine ⟨after, ?_⟩
    rw [List.cons_append, List.append_assoc, run_repeatFrom_next _ hstep, hsteps,
      List.reverse_cons, List.append_assoc]
    rfl

/-- All identifiers of a path are read. -/
theorem run_iterate_keyStep {path : List Identifier} (h : SpellsPath tokens path)
    (hrest : startsOperator "::" rest = false) (taken : List Token) (complete : Bool) :
    ∃ after, (iterate keyStep []).run { rest := tokens ++ rest, taken, complete } =
      some (path, { rest, taken := after, complete }) := by
  have hfuel : tokens.length < (tokens ++ rest).length + 1 := by
    rw [List.length_append]
    omega
  obtain ⟨after, hsteps⟩ := run_keySteps h hrest hfuel [] taken complete
  exact ⟨after, (run_iterate _ _ _).trans hsteps⟩

/-- A path is read in two parts: the double colon before it, and the identifiers. -/
theorem keyPath_eq : keyPath = do
    let rooted ← operator? "::"
    let path ← iterate keyStep []
    return { rooted, path } := rfl

/-- **The path of a key is read** where no double colon follows. -/
theorem run_keyPath {key : AttributeKey} (h : SpellsKey tokens key)
    (hrest : startsOperator "::" rest = false) (taken : List Token) (complete : Bool) :
    ∃ after, keyPath.run { rest := tokens ++ rest, taken, complete } =
      some (key, { rest, taken := after, complete }) := by
  rw [keyPath_eq]
  cases h with
  | @bare tokens path hpath =>
    have hroot : startsOperator "::" (tokens ++ rest) = false := by cases hpath <;> rfl
    obtain ⟨after, hwords⟩ := run_iterate_keyStep hpath hrest taken complete
    rw [run_bind_of_eq (run_operator?_of_not hroot), run_bind_of_eq hwords]
    exact ⟨after, rfl⟩
  | @rooted joint tokens path hpath =>
    have hroot : (operator? "::").run
        { rest := doubleColon joint ++ tokens ++ rest, taken, complete } =
        some (true, ⟨tokens ++ rest, (Token.operator "::").reverse ++ taken, complete⟩) := rfl
    obtain ⟨after, hwords⟩ :=
      run_iterate_keyStep hpath hrest ((Token.operator "::").reverse ++ taken) complete
    rw [run_bind_of_eq hroot, run_bind_of_eq hwords]
    exact ⟨after, rfl⟩

/-! ### Values -/

/-- No double colon follows a key, whether it has a value or not. -/
theorem not_startsOperator_of_spellsValue {value : List Token}
    (hvalue : SpellsValue rules rest value) (hends : EndsKey rest) :
    startsOperator "::" (value ++ rest) = false := by
  cases hvalue <;> cases hends <;> rfl

/-- **What follows the path of a key is passed over**, up to its end. -/
theorem run_keyValue {value : List Token} (h : SpellsValue rules rest value) (hends : EndsKey rest)
    (taken : List Token) :
    ∃ after, (keyValue rules).run { rest := value ++ rest, taken } =
      some ((), { rest, taken := after }) := by
  cases h with
  | none => cases hends <;> exact ⟨_, rfl⟩
  | expression joint tokens h =>
    obtain ⟨form, written, hrun⟩ := h
    rw [← List.reverse_reverse written] at hrun
    refine ⟨.punct '=' false :: taken, ?_⟩
    rw [keyValue, List.cons_append, run_bind_peekOperator]
    have hequals : startsOperator "=" (.punct '=' joint :: (tokens ++ rest)) = true := rfl
    simp only [hequals, if_true]
    rw [run_bind_of_eq (run_operator rfl joint (tokens ++ rest) taken true)]
    exact run_discard (run_aside hrun (.punct '=' false :: taken))
  | list tokens =>
    have hall : everything.run { rest := tokens } =
        some (tokens, { rest := [], taken := tokens.reverse }) := by
      simp [everything, drop, write]
    exact ⟨_, run_group .parenthesis (run_discard hall) rest taken true⟩

/-! ### Keys -/

/-- One key of several, and what stands between it and the next. -/
theorem keysFrom_of_run {key : AttributeKey} {fuel : Nat} {read : List AttributeKey} {more : Bool}
    {s₀ s₁ s₂ s₃ : ParseState} (hpath : keyPath.run s₀ = some (key, s₁))
    (hvalue : (keyValue rules).run s₁ = some ((), s₂))
    (hafter : afterKey.run s₂ = some (more, s₃)) :
    keysFrom rules (fuel + 1) read s₀ =
      if more then keysFrom rules fuel (key :: read) s₃
      else ⟨(key :: read).reverse, s₃.complete⟩ := by
  have hboth : (do keyValue rules; afterKey : Parser Bool).run s₁ = some (more, s₃) :=
    (run_bind_of_eq hvalue).trans hafter
  rw [keysFrom, hpath]
  dsimp only
  rw [hboth]
  cases more <;> rfl

/-- The path of a key and what follows it. -/
theorem run_key {path value : List Token} {key : AttributeKey} (hkey : SpellsKey path key)
    (hvalue : SpellsValue rules rest value) (hends : EndsKey rest) (taken : List Token) :
    ∃ s after, keyPath.run { rest := path ++ (value ++ rest), taken } = some (key, s) ∧
      (keyValue rules).run s = some ((), { rest, taken := after }) := by
  obtain ⟨between, hpath⟩ :=
    run_keyPath hkey (not_startsOperator_of_spellsValue hvalue hends) taken true
  obtain ⟨after, hrun⟩ := run_keyValue hvalue hends between
  exact ⟨_, after, hpath, hrun⟩

/-- A comma after a key is taken. -/
theorem run_afterKey_comma (joint : Bool) (rest taken : List Token) (complete : Bool) :
    afterKey.run { rest := .punct ',' joint :: rest, taken, complete } =
      some (!rest.isEmpty, { rest, taken := .punct ',' false :: taken, complete }) := rfl

/-- **All keys are read**, and everything up to the end. -/
theorem keysFrom_of_spellsKeys {keys : List AttributeKey} (h : SpellsKeys rules tokens keys)
    (hsome : tokens ≠ []) {fuel : Nat} (hfuel : tokens.length < fuel) (read : List AttributeKey)
    (taken : List Token) :
    keysFrom rules fuel read { rest := tokens, taken } = ⟨read.reverse ++ keys, true⟩ := by
  obtain ⟨fuel, rfl⟩ : ∃ lower, fuel = lower + 1 := Nat.exists_eq_add_one.2 (by omega)
  induction h generalizing fuel read taken with
  | nil => exact absurd rfl hsome
  | @last path value key hkey hvalue =>
    obtain ⟨s, after, hpath, hrun⟩ := run_key hkey hvalue .nil taken
    rw [List.append_nil] at hpath
    rw [keysFrom_of_run hpath hrun rfl, List.reverse_cons]
    rfl
  | @next path value rest key keys hkey joint hvalue hrest ih =>
    obtain ⟨s, after, hpath, hrun⟩ := run_key hkey hvalue (.comma joint rest) taken
    rw [keysFrom_of_run hpath hrun (run_afterKey_comma joint rest after true)]
    cases rest with
    | nil =>
      rw [hrest.eq_nil rfl, List.reverse_cons]
      rfl
    | cons token rest =>
      simp only [List.length_append, List.length_cons] at hfuel
      obtain ⟨fuel, rfl⟩ : ∃ lower, fuel = lower + 1 := Nat.exists_eq_add_one.2 (by omega)
      have hlater := ih (List.cons_ne_nil token rest) (key :: read)
        (.punct ',' false :: after) fuel (by simp only [List.length_cons]; omega)
      rw [List.reverse_cons, List.append_assoc] at hlater
      exact hlater

end Grammar

/-- **Of an attribute that lists keys, all keys are read.** -/
theorem Attribute.Lists.keys_eq {a : Attribute} {keys : List AttributeKey} (h : a.Lists keys) :
    a.keys = ⟨keys, true⟩ := by
  obtain ⟨path, rooted, body⟩ := a
  obtain ⟨tokens, rfl, hkeys⟩ := h
  cases tokens with
  | nil => rw [hkeys.eq_nil rfl]; rfl
  | cons token rest =>
    exact Grammar.keysFrom_of_spellsKeys hkeys (List.cons_ne_nil _ _) (Nat.lt_succ_self _) [] []

end TypeSchema.Source
