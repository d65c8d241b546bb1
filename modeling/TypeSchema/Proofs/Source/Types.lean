import TypeSchema.Proofs.Source.Arguments
import TypeSchema.Source.Grammar

/-!
# Reading spelled types

The grammar looks for one form of type after the other. Of a path it keeps the last segment with its
arguments, however many modules lead there, and of brackets what they hold.

* `ReadsSegment` is what is asked of a last segment; a name alone is one, and so is a name with type
  arguments.
* `run_path` leads through the modules, by induction on them, and `run_typeForm_path` past the other
  forms of types.
* `readsType_of_spelled`: **every spelling is read as the type that it spells**, by induction on the
  spelling. Each level of arguments takes one level of rules.
-/

namespace TypeSchema.Source.Grammar

open TypeSchema.Source.Parser

variable {rules : Rules}

/-! ### Segments -/

/-- Does a segment of a path stand here, whatever follows the type that ends with it? -/
def ReadsSegment (rules : Rules) (tokens : List Token) (last : Identifier)
    (arguments : PathArguments) (written : List Token) : Prop :=
  ∀ rest, EndsType rest → ∀ taken complete,
    (pathSegment rules false).run { rest := tokens ++ rest, taken, complete } =
      some ((last, arguments), { rest, taken := written.reverse ++ taken, complete })

/-- A free identifier is read as a name. -/
theorem run_name {id : Identifier} (h : id.IsFree) (rest taken : List Token) (complete : Bool) :
    name.run { rest := id.token :: rest, taken, complete } =
      some (id, { rest, taken := id.token :: taken, complete }) := by
  rw [name, run_bind_peek, startsName_of_isFree h]
  rfl

/-- A word of a path that no arguments follow. -/
theorem run_pathSegment_name {id : Identifier} (h : id.IsModule) {rest : List Token}
    (hless : startsOperator "<" rest = false)
    (hturbofish : (startsOperator "::" rest && startsOperator "<" (rest.drop 2)) = false)
    (taken : List Token) (complete : Bool) :
    (pathSegment rules false).run { rest := id.token :: rest, taken, complete } =
      some ((id, .none), { rest, taken := id.token :: taken, complete }) := by
  unfold pathSegment
  rw [run_bind_peek]
  cases hkeyword : startsOneOf ["super", "self", "crate", "try"] (id.token :: rest) with
  | true => rfl
  | false =>
    have hfree := isFree_of_not_startsOneOf h hkeyword
    have hself : startsWord "Self" (id.token :: rest) = false :=
      startsWord_of_isFree hfree (by decide) rest
    have hname := run_name hfree rest taken complete
    simp only [Bool.false_eq_true, if_false, run_bind_peekWord, hself, run_bind_of_eq hname,
      run_bind_peek, hless, hturbofish, Bool.not_false, Bool.true_and, Bool.false_and,
      Bool.or_false]
    rfl

/-- A free identifier is a segment of a path, without arguments. -/
theorem readsSegment_name {id : Identifier} (h : id.IsFree) :
    ReadsSegment rules [id.token] id .none [id.token] := by
  intro rest hends taken complete
  have hless : startsOperator "<" rest = false :=
    not_startsOperator_of_endsType rfl hends
  have hcolons : startsOperator "::" rest = false :=
    not_startsOperator_of_endsType rfl hends
  exact run_pathSegment_name (.inl h) hless (by rw [hcolons]; rfl) taken complete

/-- A name that arguments follow. -/
theorem run_pathSegment_angle {id : Identifier} (h : id.IsFree)
    {rest after taken taken' : List Token} {arguments : List ArgumentSyntax} {complete : Bool}
    (hless : startsOperator "<" rest = true) (hlessEq : startsOperator "<=" rest = false)
    (hcolons : startsOperator "::" rest = false)
    (harguments : (angleList (genericArgument rules)).run
        { rest, taken := id.token :: taken, complete } =
      some (arguments, { rest := after, taken := taken', complete })) :
    (pathSegment rules false).run { rest := id.token :: rest, taken, complete } =
      some ((id, .angle arguments), { rest := after, taken := taken', complete }) := by
  have hkeyword : startsOneOf ["super", "self", "crate", "try"] (id.token :: rest) = false :=
    not_startsOneOf_of_isFree h (by decide) rest
  have hself : startsWord "Self" (id.token :: rest) = false :=
    startsWord_of_isFree h (by decide) rest
  have hname := run_name h rest taken complete
  have hskip : (discard (operator? "::")).run { rest, taken := id.token :: taken, complete } =
      some ((), { rest, taken := id.token :: taken, complete }) :=
    run_discard (run_operator?_of_not hcolons)
  simp only [pathSegment, run_bind_peek, hkeyword, Bool.false_eq_true, if_false, run_bind_peekWord,
    hself, run_bind_of_eq hname, hless, hlessEq, Bool.not_false, Bool.true_and, Bool.true_or, if_true,
    run_bind_of_eq hskip, run_bind_of_eq harguments]
  rfl

/-- A name that type arguments follow. -/
theorem readsSegment_angle {id : Identifier} (h : id.IsFree) {arguments : List TypeArgument}
    (hsome : arguments ≠ []) (hopens : ∀ a ∈ arguments, OpensType a.tokens)
    (hreads : ∀ a ∈ arguments, ReadsType (rules.type true) a.tokens a.type)
    (less trailing greater : Bool) :
    ReadsSegment rules
      (id.token :: .punct '<' less ::
        (TypeArgument.listTokens trailing arguments ++ [.punct '>' greater]))
      id (.angle (arguments.map fun a => .type a.type))
      (id.token :: (Token.operator "<" ++
        TypeArgument.listTokens trailing (arguments.map TypeArgument.again) ++
          Token.operator ">")) := by
  intro rest _ taken complete
  have hlessEq : startsOperator "<=" (.punct '<' less ::
      (TypeArgument.listTokens trailing arguments ++ .punct '>' greater :: rest)) = false := by
    have hequals : startsOperator "=" _ = false := not_startsOperator_of_opensType rfl
      (opensType_listTokens hsome hopens trailing (.punct '>' greater :: rest))
    exact Bool.and_eq_false_imp.2 fun _ => hequals
  have hlist := run_angleList hsome hopens hreads less trailing greater rest (id.token :: taken)
    complete
  have hsegment := run_pathSegment_angle h rfl hlessEq rfl hlist
  simpa using hsegment

/-! ### Paths -/

/-- Are there no arguments? -/
def PathArguments.isNone : PathArguments → Bool
  | .none => true
  | .angle _ | .parenthesized => false

/-- The path with one more segment. -/
def Path.next (path : Path) (last : Identifier) (arguments : PathArguments) : Path :=
  { last, arguments, single := false, plain := path.plain && arguments.isNone }

/-- A step along a path. -/
def pathStep (rules : Rules) (path : Path) : Parser (Path ⊕ Path) := do
  if ← peek fun ts => startsOperator "::" ts && !startsGroup .parenthesis (ts.drop 2) then
    operator "::"
    let (last, arguments) ← pathSegment rules false
    let plain := path.plain && arguments matches .none
    return .inl { last, arguments, single := false, plain }
  else return .inr path

/-- A double colon after the path brings one more segment. -/
theorem run_pathStep_next (path : Path) {id last : Identifier} {arguments : PathArguments}
    {more taken : List Token} {complete : Bool} {after : ParseState}
    (hsegment : (pathSegment rules false).run
        { rest := id.token :: more, taken := (Token.operator "::").reverse ++ taken, complete } =
      some ((last, arguments), after)) :
    (pathStep rules path).run
        { rest := Token.operator "::" ++ id.token :: more, taken, complete } =
      some (.inl (path.next last arguments), after) := by
  rw [pathStep, run_bind_peek]
  refine (run_bind_of_eq (run_doubleColon (id.token :: more) taken complete)).trans ?_
  rw [run_bind_of_eq hsegment]
  cases arguments <;> rfl

/-- Without a double colon the path ends. -/
theorem run_pathStep_end (path : Path) {rest : List Token} (hends : EndsType rest)
    (taken : List Token) (complete : Bool) :
    (pathStep rules path).run { rest, taken, complete } =
      some (.inr path, { rest, taken, complete }) := by
  have hcolons : startsOperator "::" rest = false :=
    not_startsOperator_of_endsType rfl hends
  rw [pathStep, run_bind_peek]
  simp only [hcolons, Bool.false_and, Bool.false_eq_true, if_false]
  rfl

/-- The modules and the name of a path begin with a word. -/
theorem exists_word_modulesTokens (modules : List Identifier) (last : Identifier)
    (rest : List Token) :
    ∃ (id : Identifier) (more : List Token),
      Front.modulesTokens modules ++ last.token :: rest = id.token :: more := by
  cases modules with
  | nil => exact ⟨last, rest, rfl⟩
  | cons id others => exact ⟨id, _, rfl⟩

/-- There is at least one token for each module before a name. -/
theorem length_le_modulesTokens (modules : List Identifier) :
    modules.length ≤ (Front.modulesTokens modules).length := by
  induction modules with
  | nil => exact Nat.le_refl 0
  | cons id others ih =>
    simp only [Front.modulesTokens, List.flatMap_cons, List.length_append, List.length_cons] at ih ⊢
    omega

/-- A module is followed by a double colon and another word. -/
theorem run_pathSegment_module (rules : Rules) {id : Identifier} (h : id.IsModule)
    (modules : List Identifier) (last : Identifier) (rest taken : List Token) (complete : Bool) :
    (pathSegment rules false).run
        { rest := id.token :: (Token.operator "::" ++
            (Front.modulesTokens modules ++ last.token :: rest)), taken, complete } =
      some ((id, .none),
        { rest := Token.operator "::" ++ (Front.modulesTokens modules ++ last.token :: rest),
          taken := id.token :: taken, complete }) := by
  obtain ⟨next, more, hnext⟩ := exists_word_modulesTokens modules last rest
  rw [hnext]
  exact run_pathSegment_name h rfl rfl taken complete

section

variable {last : Identifier} {tail written : List Token} {arguments : PathArguments}
  (hlast : ReadsSegment rules (last.token :: tail) last arguments written)
  {modules : List Identifier} (hmodules : ∀ id ∈ modules, id.IsModule) {rest : List Token}
  (hends : EndsType rest) (complete : Bool)

include hlast hmodules hends

/-- The segments of a path after the first one: modules, and a last name. -/
theorem run_pathSteps {fuel : Nat} (hfuel : modules.length + 1 < fuel) (start : Path)
    (taken : List Token) :
    (repeatFrom (pathStep rules) fuel start).run
        { rest := Token.operator "::" ++
            (Front.modulesTokens modules ++ last.token :: (tail ++ rest)), taken, complete } =
      some (start.next last arguments,
        { rest, taken := (Token.operator "::" ++
            (Front.modulesTokens modules ++ written)).reverse ++ taken, complete }) := by
  induction modules generalizing fuel start taken with
  | nil =>
    -- One step reads the last name, and another sees that no double colon follows.
    obtain ⟨fuel, rfl⟩ := Nat.exists_eq_add_of_le' hfuel
    have hnext := run_pathStep_next start
      (hlast rest hends ((Token.operator "::").reverse ++ taken) complete)
    refine (run_repeatFrom_next (fuel + 1) hnext).trans ?_
    refine (run_repeatFrom_last fuel (run_pathStep_end _ hends _ complete)).trans ?_
    simp [Front.modulesTokens]
  | cons id others ih =>
    obtain ⟨fuel, rfl⟩ := Nat.exists_eq_add_one_of_ne_zero (Nat.ne_of_gt (Nat.zero_lt_of_lt hfuel))
    have hsegment := run_pathSegment_module rules (hmodules id List.mem_cons_self) others last
      (tail ++ rest) ((Token.operator "::").reverse ++ taken) complete
    have hnext := run_pathStep_next start hsegment
    have hrest := ih (fun other hother => hmodules other (List.mem_cons_of_mem id hother))
      (Nat.lt_of_succ_lt_succ hfuel) (start.next id .none)
        (id.token :: ((Token.operator "::").reverse ++ taken))
    have hmodule : Front.modulesTokens (id :: others) =
        id.token :: (Token.operator "::" ++ Front.modulesTokens others) := rfl
    rw [hmodule, List.cons_append, List.append_assoc]
    refine (run_repeatFrom_next fuel hnext).trans (hrest.trans ?_)
    -- A module has no arguments, so the path stays as plain as it was.
    have hplain : (start.next id .none).next last arguments = start.next last arguments := by
      simp [Path.next, PathArguments.isNone]
    rw [hplain]
    simp

/-- The modules and the last segment are read one by one. -/
theorem run_pathRest (start : Path) (taken : List Token) :
    (pathRest rules false start).run
        { rest := Token.operator "::" ++
            (Front.modulesTokens modules ++ last.token :: (tail ++ rest)), taken, complete } =
      some (start.next last arguments,
        { rest, taken := (Token.operator "::" ++
            (Front.modulesTokens modules ++ written)).reverse ++ taken, complete }) := by
  have hlength := length_le_modulesTokens modules
  refine (run_iterate _ _ _).trans (run_pathSteps hlast hmodules hends complete ?_ start taken)
  simp only [List.length_append, List.length_cons]
  omega

end

/-- What is known of a path once it is read. -/
def Path.of (front : Front) (last : Identifier) (arguments : PathArguments) : Path :=
  { last, arguments, single := front.isBare, plain := arguments.isNone }

/-- Whether a path begins at the root is told by a double colon before it. -/
theorem run_root (rooted : Bool) (id : Identifier) (rest taken : List Token) (complete : Bool) :
    (operator? "::").run
        { rest := Front.rootTokens rooted ++ id.token :: rest, taken, complete } =
      some (rooted, { rest := id.token :: rest,
                      taken := (Front.rootTokens rooted).reverse ++ taken, complete }) := by
  cases rooted <;> rfl

/-- **A path** is read up to the end of its last segment. -/
theorem run_path {last : Identifier} {tail written : List Token} {arguments : PathArguments}
    (hlast : ReadsSegment rules (last.token :: tail) last arguments written) {front : Front}
    (hfront : ∀ id ∈ front.modules, id.IsModule) {rest : List Token} (hends : EndsType rest)
    (taken : List Token) (complete : Bool) :
    (path rules false).run
        { rest := front.tokens ++ last.token :: (tail ++ rest), taken, complete } =
      some (Path.of front last arguments,
        { rest, taken := (front.tokens ++ written).reverse ++ taken, complete }) := by
  obtain ⟨rooted, modules⟩ := front
  rw [Front.tokens, List.append_assoc]
  cases modules with
  | nil =>
    have hroot := run_root rooted last (tail ++ rest) taken complete
    refine (run_bind_of_eq hroot).trans ?_
    refine (run_bind_of_eq (hlast rest hends _ complete)).trans ?_
    refine (run_repeatFrom_last _ (run_pathStep_end _ hends _ complete)).trans ?_
    cases arguments <;> simp [Path.of, PathArguments.isNone, Front.isBare, Front.modulesTokens]
  | cons id others =>
    have hothers : ∀ other ∈ others, other.IsModule :=
      fun other hother => hfront other (List.mem_cons_of_mem id hother)
    have hroot := run_root rooted id
      (Token.operator "::" ++ (Front.modulesTokens others ++ last.token :: (tail ++ rest))) taken
      complete
    refine (run_bind_of_eq hroot).trans ?_
    refine (run_bind_of_eq (run_pathSegment_module rules (hfront id List.mem_cons_self) others last
      (tail ++ rest) _ complete)).trans ?_
    refine (run_pathRest hlast hothers hends complete _ _).trans ?_
    have hpath : ({ last := id, arguments := .none, single := !rooted, plain := true } : Path).next
        last arguments = Path.of { rooted, modules := id :: others } last arguments := by
      cases arguments <;> cases rooted <;> rfl
    rw [hpath]
    simp [Front.modulesTokens]

/-- The arguments as they are kept of a type. -/
def PathArguments.kept : PathArguments → List ArgumentSyntax
  | .angle arguments => arguments
  | .none | .parenthesized => []

section

variable {last : Identifier} (hfree : last.IsFree) {tail written : List Token}
  {arguments : PathArguments}
  (hlast : ReadsSegment rules (last.token :: tail) last arguments written) {front : Front}
  (hfront : ∀ id ∈ front.modules, id.IsModule) {rest : List Token} (hends : EndsType rest)
  (taken : List Token) (complete : Bool)

include hfree hlast hfront hends

/-- A path of a type has no arguments in parentheses unless they follow. -/
theorem run_typePath :
    (typePath rules).run
        { rest := front.tokens ++ last.token :: (tail ++ rest), taken, complete } =
      some ((false, Path.of front last arguments),
        { rest, taken := (front.tokens ++ written).reverse ++ taken, complete }) := by
  have hless : startsOperator "<" (front.tokens ++ last.token :: (tail ++ rest)) = false :=
    not_startsOperator_of_opensType rfl (opensType_front hfront hfree _)
  have hcall : startsCallArguments rest = false := by
    have hcolons : startsOperator "::" rest = false :=
      not_startsOperator_of_endsType rfl hends
    rw [startsCallArguments, not_startsGroup_of_endsType .parenthesis hends, hcolons]
    rfl
  have hqualified : (qualifiedPath rules false).run
      { rest := front.tokens ++ last.token :: (tail ++ rest), taken, complete } =
      some ((false, Path.of front last arguments),
        { rest, taken := (front.tokens ++ written).reverse ++ taken, complete }) := by
    rw [qualifiedPath, run_bind_peekOperator, hless]
    simp only [Bool.false_eq_true, if_false]
    rw [run_bind_of_eq (run_path hlast hfront hends taken complete)]
    rfl
  rw [typePath, run_bind_of_eq hqualified]
  dsimp only
  refine (run_bind_of_eq ((run_iterate _ _ _).trans (run_repeatFrom_last _ ?_))).trans rfl
  rw [run_bind_peek]
  simp only [hcall, Bool.and_false, Bool.false_eq_true, if_false]
  rfl

/-- A path without parentheses is read as a type, up to where the type ends. -/
theorem run_pathType (hangle : arguments ≠ .parenthesized) :
    (pathType rules false true).run
        { rest := front.tokens ++ last.token :: (tail ++ rest), taken, complete } =
      some (.path last arguments.kept front.isBare,
        { rest, taken := (front.tokens ++ written).reverse ++ taken, complete }) := by
  have hmacro : startsOperator "!" rest = false :=
    not_startsOperator_of_endsType rfl hends
  have hplus : startsOperator "+" rest = false :=
    not_startsOperator_of_endsType rfl hends
  rw [pathType, run_bind_of_eq (run_typePath hfree hlast hfront hends taken complete)]
  simp only [run_bind_peek, run_bind_peekOperator, hmacro, hplus, Bool.false_and, Bool.and_false,
    Bool.false_eq_true, if_false]
  cases arguments with
  | none | angle => rfl
  | parenthesized => exact absurd rfl hangle

end

/-! ### Types -/

/-- No type that begins like this has parameters of its own. -/
theorem run_forParameters {tokens : List Token} (h : OpensType tokens) (taken : List Token)
    (complete : Bool) :
    (forParameters rules).run { rest := tokens, taken, complete } =
      some (false, { rest := tokens, taken, complete }) := by
  have hword : startsWord "for" tokens = false :=
    not_startsWord_of_opensType h (by decide) (by decide)
  rw [forParameters, run_bind_of_eq (run_word?_of_not hword)]
  rfl

/-- What opens like a path is read as one. -/
theorem run_typeForm_path {last : Identifier} (hfree : last.IsFree) {tail written : List Token}
    {arguments : PathArguments} (hangle : arguments ≠ .parenthesized)
    (hlast : ReadsSegment rules (last.token :: tail) last arguments written) {front : Front}
    (hfront : ∀ id ∈ front.modules, id.IsModule) {rest : List Token} (hends : EndsType rest)
    (taken : List Token) (complete : Bool) :
    (typeForm rules true).run
        { rest := front.tokens ++ last.token :: (tail ++ rest), taken, complete } =
      some (.path last arguments.kept front.isBare,
        { rest, taken := (front.tokens ++ written).reverse ++ taken, complete }) := by
  have hopens := opensType_front hfront hfree (tail ++ rest)
  have hgroup : startsGroup .parenthesis (front.tokens ++ last.token :: (tail ++ rest)) = false :=
    not_startsGroup_of_opensType hopens (by decide)
  have hpath : startsPath (front.tokens ++ last.token :: (tail ++ rest)) = true :=
    startsPath_front hfront hfree (tail ++ rest)
  rw [typeForm, run_bind_of_eq (run_forParameters hopens taken complete)]
  simp only [Bool.false_eq_true, if_false, run_bind_peekGroup, hgroup, run_bind_peek,
    not_startsOneOf_of_opensType hopens, hpath, Bool.true_or, if_true]
  exact run_pathType hfree hlast hfront hends taken complete hangle

/-- Where brackets stand, the type is what they hold. -/
theorem run_typeForm_of_startsGroup {tokens : List Token} (hopens : OpensType tokens)
    (hbracket : startsGroup .bracket tokens = true) (taken : List Token) (complete : Bool) :
    (typeForm rules true).run { rest := tokens, taken, complete } =
      (group .bracket (bracketedType rules)).run { rest := tokens, taken, complete } := by
  have hpath : (startsPath tokens || startsWord "Self" tokens || startsOperator "<" tokens) =
      false := by
    cases hopens with
    | word | colon => cases hbracket
    | bracket => rfl
  have hdyn : (word? "dyn").run { rest := tokens, taken, complete } =
      some (false, { rest := tokens, taken, complete }) :=
    run_word?_of_not (not_startsWord_of_opensType hopens (by decide) (by decide))
  rw [typeForm, run_bind_of_eq (run_forParameters hopens taken complete)]
  simp only [Bool.false_eq_true, if_false, run_bind_peekGroup, run_bind_peek,
    not_startsGroup_of_opensType hopens (show Delimiter.parenthesis ≠ .bracket by decide),
    not_startsOneOf_of_opensType hopens, hpath]
  rw [markedType, run_bind_of_eq hdyn]
  simp only [Bool.false_eq_true, if_false, if_true, run_bind_peekGroup, hbracket]

/-- Brackets hold a type and nothing else. -/
theorem run_typeForm_bracket {tokens : List Token} {item : TypeSyntax}
    (hitem : ReadsType (rules.type true) tokens item) (rest taken : List Token) (complete : Bool) :
    (typeForm rules true).run { rest := .group .bracket tokens :: rest, taken, complete } =
      some (.slice item,
        { rest, taken := .group .bracket item.written :: taken, complete }) := by
  have hread := hitem [] .nil [] true
  rw [List.append_nil, List.append_nil] at hread
  have hinner : (bracketedType rules).run { rest := tokens } =
      some (.slice item, { rest := [], taken := item.written.reverse }) := by
    rw [bracketedType, run_bind_of_eq hread]
    rfl
  rw [run_typeForm_of_startsGroup (.bracket tokens rest) rfl]
  exact run_group .bracket hinner rest taken complete

/-- A path is read as a type of its last segment and that one's arguments. -/
theorem readsType_path {last : Identifier} (hfree : last.IsFree) {tail written : List Token}
    {arguments : PathArguments} (hangle : arguments ≠ .parenthesized)
    (hlast : ReadsSegment rules (last.token :: tail) last arguments written) {front : Front}
    (hfront : ∀ id ∈ front.modules, id.IsModule) :
    ReadsType (type rules true) (front.tokens ++ last.token :: tail)
      (.path last arguments.kept front.isBare (front.tokens ++ written)) := by
  intro rest hends taken complete
  have hform := run_typeForm_path hfree hangle hlast hfront hends [] complete
  rw [List.append_nil] at hform
  rw [List.append_assoc, List.cons_append]
  exact (run_bind_of_eq (run_capture hform taken)).trans rfl

/-- A type in brackets is read as a slice. -/
theorem readsType_slice {tokens : List Token} {item : TypeSyntax}
    (hitem : ReadsType (rules.type true) tokens item) :
    ReadsType (type rules true) [.group .bracket tokens] (.slice item) := by
  intro rest _ taken complete
  have hform := run_typeForm_bracket hitem rest [] complete
  have hcapture : (capture (typeForm rules true)).run
      { rest := .group .bracket tokens :: rest, taken, complete } =
      some ((.slice item, [.group .bracket item.written]),
        { rest, taken := .group .bracket item.written :: taken, complete }) :=
    run_capture hform taken
  exact (run_bind_of_eq hcapture).trans rfl

/-! ### Levels of rules -/

/-- The tokens of two lists are counted together. -/
@[simp] theorem sizes_append (tokens more : List Token) :
    Token.sizes (tokens ++ more) = Token.sizes tokens + Token.sizes more := by
  induction tokens with
  | nil => exact (Nat.zero_add _).symm
  | cons token rest ih => rw [List.cons_append, Token.sizes, ih, Token.sizes, Nat.add_assoc]

/-- An argument has no more tokens than the list it is in. -/
theorem sizes_le_listTokens (trailing : Bool) {arguments : List TypeArgument} {a : TypeArgument}
    (ha : a ∈ arguments) :
    Token.sizes a.tokens ≤ Token.sizes (TypeArgument.listTokens trailing arguments) := by
  induction arguments with
  | nil => exact absurd ha List.not_mem_nil
  | cons b more ih =>
    cases more with
    | nil =>
      rw [List.mem_singleton.1 ha, TypeArgument.listTokens, sizes_append]
      exact Nat.le_add_right _ _
    | cons c others =>
      rw [TypeArgument.listTokens, sizes_append, Token.sizes]
      rcases List.mem_cons.1 ha with rfl | ha
      · exact Nat.le_add_right _ _
      · have hmore := ih ha
        omega

/-- **A type of this form is read as it is spelled**, with rules that are nested no deeper than its
tokens. -/
theorem readsType_of_spelled {tokens : List Token} {t : TypeSyntax} (h : Spelled tokens t)
    {depth : Nat} (hdepth : Token.sizes tokens ≤ depth) :
    ReadsType (type (Rules.build depth) true) tokens t := by
  induction h generalizing depth with
  | name front last hfront hlast =>
    exact readsType_path hlast PathArguments.noConfusion (readsSegment_name hlast) hfront
  | @generic front last hfront hlast less arguments hsome harguments trailing greater ih =>
    rw [sizes_append, Token.sizes, Token.sizes, sizes_append] at hdepth
    obtain ⟨depth, rfl⟩ : ∃ level, depth = level + 1 := Nat.exists_eq_add_one_of_ne_zero (by
      simp only [Identifier.token, Token.size] at hdepth
      omega)
    -- The name and the brackets are tokens too, which leaves a level for the arguments.
    have hreads : ∀ a ∈ arguments,
        ReadsType ((Rules.build (depth + 1)).type true) a.tokens a.type := by
      intro a ha
      have hsize := sizes_le_listTokens trailing ha
      simp only [Identifier.token, Token.size] at hdepth
      exact ih a ha (by omega)
    have hopens : ∀ a ∈ arguments, OpensType a.tokens :=
      fun a ha => opensType_of_spelled (harguments a ha)
    exact readsType_path hlast PathArguments.noConfusion
      (readsSegment_angle hlast hsome hopens hreads less trailing greater) hfront
  | slice hitem ih =>
    simp only [Token.sizes, Token.size] at hdepth
    obtain ⟨depth, rfl⟩ : ∃ level, depth = level + 1 :=
      Nat.exists_eq_add_one_of_ne_zero (by omega)
    have hinner : ReadsType ((Rules.build (depth + 1)).type true) _ _ := ih (by omega)
    exact readsType_slice hinner

/-- A spelled type is all that its tokens are read as. -/
theorem run?_type_of_spelled {tokens : List Token} {t : TypeSyntax} (h : Spelled tokens t) :
    run? (fun rules => type rules true) tokens = some t := by
  have hrun : run (fun rules => type rules true) { rest := tokens } =
      some (t, { rest := [], taken := t.written.reverse }) := by
    have hdepth : Token.sizes tokens ≤ 16 * (Token.sizes tokens + 1) := by omega
    have hread := readsType_of_spelled h hdepth [] .nil [] true
    rw [List.append_nil, List.append_nil] at hread
    exact hread
  rw [run?, hrun]
  rfl

end TypeSchema.Source.Grammar
