import TypeSchema.Proofs.Source.Parser

/-!
# The spelling of types

Most types in a source are paths whose arguments are types again, or types in brackets. Such a type
has many spellings: it may be bare or led through modules, a comma may follow its last argument, and a
punctuation character may be joint with the next one or stand alone.

* `Spelled` relates tokens to the type that they spell.
* `OpensType` and `EndsType` say what a spelling begins with and what may follow one. All that a
  parser looks for before other forms of types is **found in neither**.
-/

namespace TypeSchema.Source

/-! ### What is written -/

/-- The words that stand for modules. -/
def moduleWords : List String := ["super", "self", "crate"]

namespace Identifier

/-- Is the word no keyword, so that it may name a type? -/
def IsFree (id : Identifier) : Prop := id.raw = true ∨ id.name ∉ reservedWords

/-- May a path lead through the word? -/
def IsModule (id : Identifier) : Prop := id.IsFree ∨ id.name ∈ moduleWords

end Identifier

/-- What stands before the last name of a path. -/
structure Front where
  /-- Does the path start with a double colon? -/
  rooted : Bool := false
  /-- The modules that it leads through. -/
  modules : List Identifier := []

namespace Front

/-- The double colon that a path starts with, if it does. -/
def rootTokens (rooted : Bool) : List Token := if rooted then Token.operator "::" else []

/-- The tokens of modules, with a double colon after each. -/
def modulesTokens (modules : List Identifier) : List Token :=
  modules.flatMap fun id => id.token :: Token.operator "::"

/-- The tokens, up to the last name. -/
def tokens (front : Front) : List Token :=
  rootTokens front.rooted ++ modulesTokens front.modules

/-- Is there nothing before the last name? -/
def isBare (front : Front) : Bool := !front.rooted && front.modules.isEmpty

end Front

/-- The tokens that a type is written with again. -/
def TypeSyntax.written : TypeSyntax → List Token
  | .path _ _ _ tokens => tokens
  | .slice item => [.group .bracket item.written]
  | _ => []

/-- A type among the arguments of a path. -/
structure TypeArgument where
  /-- Its tokens. -/
  tokens : List Token
  /-- The type. -/
  type : TypeSyntax
  /-- Is the comma after it joint? -/
  joint : Bool

namespace TypeArgument

/-- The argument as it is written again. -/
def again (a : TypeArgument) : TypeArgument := { a with tokens := a.type.written, joint := false }

/-- The tokens of several arguments, with a comma after each but the last, and perhaps there. -/
def listTokens (trailing : Bool) : List TypeArgument → List Token
  | [] => []
  | [a] => a.tokens ++ if trailing then [.punct ',' a.joint] else []
  | a :: b :: rest => a.tokens ++ .punct ',' a.joint :: listTokens trailing (b :: rest)

end TypeArgument

/-- The tokens of types that are paths, with types as arguments, or types in brackets. -/
inductive Spelled : List Token → TypeSyntax → Prop where
  /-- A path without arguments. -/
  | name (front : Front) (last : Identifier) (hfront : ∀ id ∈ front.modules, id.IsModule)
      (hlast : last.IsFree) :
      Spelled (front.tokens ++ [last.token])
        (.path last [] front.isBare (front.tokens ++ [last.token]))
  /-- A path with arguments. -/
  | generic (front : Front) (last : Identifier) (hfront : ∀ id ∈ front.modules, id.IsModule)
      (hlast : last.IsFree) (less : Bool) {arguments : List TypeArgument} (hsome : arguments ≠ [])
      (harguments : ∀ a ∈ arguments, Spelled a.tokens a.type) (trailing greater : Bool) :
      Spelled
        (front.tokens ++ last.token :: .punct '<' less ::
          (TypeArgument.listTokens trailing arguments ++ [.punct '>' greater]))
        (.path last (arguments.map fun a => .type a.type) front.isBare
          (front.tokens ++ last.token :: (Token.operator "<" ++
            TypeArgument.listTokens trailing (arguments.map TypeArgument.again) ++
              Token.operator ">")))
  /-- A type in brackets. -/
  | slice {tokens : List Token} {item : TypeSyntax} (hitem : Spelled tokens item) :
      Spelled [.group .bracket tokens] (.slice item)

/-! ### Words -/

/-- A free identifier is no reserved word. -/
theorem startsWord_of_isFree {id : Identifier} (h : id.IsFree) {word : String}
    (hword : word ∈ reservedWords) (rest : List Token) :
    startsWord word (id.token :: rest) = false := by
  rcases h with hraw | hname
  · simp [Identifier.token, startsWord, hraw]
  · have hne : id.name ≠ word := fun h => hname (h ▸ hword)
    simp [Identifier.token, startsWord, hne]

/-- The name of a module is no reserved word but one of those for modules. -/
theorem startsWord_of_isModule {id : Identifier} (h : id.IsModule) {word : String}
    (hword : word ∈ reservedWords) (hother : word ∉ moduleWords) (rest : List Token) :
    startsWord word (id.token :: rest) = false := by
  rcases h with hfree | hmodule
  · exact startsWord_of_isFree hfree hword rest
  · have hne : id.name ≠ word := fun h => hother (h ▸ hmodule)
    simp [Identifier.token, startsWord, hne]

/-- A free identifier stands for a name. -/
theorem startsName_of_isFree {id : Identifier} (h : id.IsFree) (rest : List Token) :
    startsName (id.token :: rest) = true := by
  rcases h with hraw | hname <;> simp [startsName, Identifier.token, *]

/-- A plain identifier is the word it is called. -/
theorem startsWord_name {id : Identifier} (hraw : id.raw = false) (rest : List Token) :
    startsWord id.name (id.token :: rest) = true := by
  simp [startsWord, Identifier.token, hraw]

/-- A word that a path may lead through is a keyword only if it stands for a module. -/
theorem isFree_of_not_startsOneOf {id : Identifier} (h : id.IsModule) {rest : List Token}
    (hkeyword : startsOneOf ["super", "self", "crate", "try"] (id.token :: rest) = false) :
    id.IsFree := by
  rcases h with hfree | hmodule
  · exact hfree
  · cases hraw : id.raw with
    | true => exact .inl hraw
    | false =>
      have hmem : id.name ∈ ["super", "self", "crate", "try"] :=
        List.mem_append_left ["try"] hmodule
      exact absurd (startsWord_name hraw rest) (List.any_eq_false.1 hkeyword id.name hmem)

/-- The name of a module may begin a path. -/
theorem startsPath_of_isModule {id : Identifier} (h : id.IsModule) (rest : List Token) :
    startsPath (id.token :: rest) = true := by
  rw [startsPath]
  cases hname : startsName (id.token :: rest) with
  | true => rfl
  | false =>
    have hfree : ¬ id.IsFree := fun hfree => by
      rw [startsName_of_isFree hfree] at hname
      cases hname
    have hmodule : id.name ∈ moduleWords := h.resolve_left hfree
    have hraw : id.raw = false := Bool.eq_false_iff.2 fun hraw => hfree (.inl hraw)
    have hwords : moduleWords ⊆ ["self", "super", "crate"] := by decide
    have hword : startsOneOf ["self", "super", "crate"] (id.token :: rest) = true :=
      List.any_eq_true.2 ⟨id.name, hwords hmodule, startsWord_name hraw rest⟩
    rw [hword]
    rfl

/-- A free identifier is none of any reserved words. -/
theorem not_startsOneOf_of_isFree {id : Identifier} (h : id.IsFree) {words : List String}
    (hwords : words ⊆ reservedWords) (rest : List Token) :
    startsOneOf words (id.token :: rest) = false := by
  refine List.any_eq_false.2 fun word hword => ?_
  rw [startsWord_of_isFree h (hwords hword)]
  exact Bool.false_ne_true

/-- The name of a module is no value. -/
theorem not_startsValue_of_isModule {id : Identifier} (h : id.IsModule) (rest : List Token) :
    startsValue (id.token :: rest) = false := by
  have hwords : startsValue (id.token :: rest) =
      (startsWord "true" (id.token :: rest) || startsWord "false" (id.token :: rest)) :=
    Bool.and_or_distrib_left _ _ _
  rw [hwords, startsWord_of_isModule h (by decide) (by decide),
    startsWord_of_isModule h (by decide) (by decide)]
  rfl

/-- An operator stands at the front with a first character of which is known what is known of that of
the operator. -/
theorem exists_of_startsOperator {op : String} {P : Char → Bool}
    (hop : op.toList.head?.any P = true) {tokens : List Token}
    (h : startsOperator op tokens = true) :
    ∃ c joint rest, P c = true ∧ tokens = .punct c joint :: rest := by
  rw [startsOperator] at h
  cases hchars : op.toList with
  | nil =>
    rw [hchars] at hop
    cases hop
  | cons c more =>
    rw [hchars] at h hop
    obtain ⟨joint, rest, htokens⟩ := eq_cons_of_startsChars c more h
    exact ⟨c, joint, rest, hop, htokens⟩

/-! ### What spellings begin with -/

/-- What a type of this form begins with. -/
inductive OpensType : List Token → Prop where
  /-- A word of a path. -/
  | word {id : Identifier} (h : id.IsModule) (more : List Token) : OpensType (id.token :: more)
  /-- The double colon before a path. -/
  | colon (joint : Bool) (more : List Token) : OpensType (.punct ':' joint :: more)
  /-- Brackets. -/
  | bracket (inner more : List Token) : OpensType (.group .bracket inner :: more)

/-- How a type opens does not depend on what follows it. -/
theorem OpensType.append {tokens : List Token} (h : OpensType tokens) (rest : List Token) :
    OpensType (tokens ++ rest) := by
  cases h with
  | word h more => exact .word h (more ++ rest)
  | colon joint more => exact .colon joint (more ++ rest)
  | bracket inner more => exact .bracket inner (more ++ rest)

/-- No operator stands where a type begins, unless it begins with a colon. -/
theorem not_startsOperator_of_opensType {op : String}
    (hop : op.toList.head?.any (fun c => c != ':') = true) {tokens : List Token}
    (h : OpensType tokens) : startsOperator op tokens = false := by
  refine Bool.eq_false_iff.2 fun hstarts => ?_
  obtain ⟨c, joint, rest, hfirst, rfl⟩ := exists_of_startsOperator hop hstarts
  cases h
  cases hfirst

/-- A path begins with a double colon, with a module or with its name. -/
theorem opensType_front {front : Front} (hfront : ∀ id ∈ front.modules, id.IsModule)
    {last : Identifier} (hlast : last.IsFree) (rest : List Token) :
    OpensType (front.tokens ++ last.token :: rest) := by
  obtain ⟨rooted, modules⟩ := front
  cases rooted with
  | true => exact .colon true _
  | false =>
    cases modules with
    | nil => exact .word (.inl hlast) rest
    | cons id others => exact .word (hfront id List.mem_cons_self) _

/-- A list of arguments opens like its first one. -/
theorem opensType_listTokens {arguments : List TypeArgument} (hsome : arguments ≠ [])
    (hopens : ∀ a ∈ arguments, OpensType a.tokens) (trailing : Bool) (rest : List Token) :
    OpensType (TypeArgument.listTokens trailing arguments ++ rest) := by
  cases arguments with
  | nil => exact absurd rfl hsome
  | cons a more =>
    have hfirst := hopens a List.mem_cons_self
    cases more with
    | nil =>
      rw [TypeArgument.listTokens, List.append_assoc]
      exact hfirst.append _
    | cons b others =>
      rw [TypeArgument.listTokens, List.append_assoc]
      exact hfirst.append _

/-- A spelled type opens like a type. -/
theorem opensType_of_spelled {tokens : List Token} {t : TypeSyntax} (h : Spelled tokens t) :
    OpensType tokens := by
  cases h with
  | name front last hfront hlast => exact opensType_front hfront hlast []
  | generic front last hfront hlast => exact opensType_front hfront hlast _
  | slice => exact .bracket _ []

/-- What begins a type of this form is none of the words before other types. -/
theorem not_startsWord_of_opensType {tokens : List Token} (h : OpensType tokens) {word : String}
    (hword : word ∈ reservedWords) (hother : word ∉ moduleWords) :
    startsWord word tokens = false := by
  cases h with
  | word hid more => exact startsWord_of_isModule hid hword hother more
  | colon | bracket => rfl

/-- A type that opens like this is no function. -/
theorem not_startsOneOf_of_opensType {tokens : List Token} (h : OpensType tokens) :
    startsOneOf ["fn", "unsafe", "extern"] tokens = false := by
  have hother : ∀ word ∈ ["fn", "unsafe", "extern"], word ∈ reservedWords ∧ word ∉ moduleWords := by
    decide
  refine List.any_eq_false.2 fun word hword => ?_
  rw [not_startsWord_of_opensType h (hother word hword).1 (hother word hword).2]
  exact Bool.false_ne_true

/-- A type that opens like this is in no group, unless it is a slice. -/
theorem not_startsGroup_of_opensType {tokens : List Token} (h : OpensType tokens)
    {delimiter : Delimiter} (hdelimiter : delimiter ≠ .bracket) :
    startsGroup delimiter tokens = false := by
  cases h with
  | word | colon => rfl
  | bracket => cases delimiter <;> first | rfl | exact absurd rfl hdelimiter

/-- A path may begin with its modules or, if there are none, with its last segment. -/
theorem startsPath_front {front : Front} (hfront : ∀ id ∈ front.modules, id.IsModule)
    {last : Identifier} (hlast : last.IsFree) (rest : List Token) :
    startsPath (front.tokens ++ last.token :: rest) = true := by
  obtain ⟨rooted, modules⟩ := front
  cases rooted with
  | true => rfl
  | false =>
    cases modules with
    | nil => exact startsPath_of_isModule (.inl hlast) rest
    | cons id others => exact startsPath_of_isModule (hfront id List.mem_cons_self) _

/-! ### What follows -/

/-- What may follow a type: an end, or what follows an argument. -/
inductive EndsType : List Token → Prop where
  /-- The end of the tokens. -/
  | nil : EndsType []
  /-- A comma. -/
  | comma (joint : Bool) (more : List Token) : EndsType (.punct ',' joint :: more)
  /-- The angle after the arguments. -/
  | greater (joint : Bool) (more : List Token) : EndsType (.punct '>' joint :: more)

/-- No operator stands where a type ends, unless it begins with a comma or an angle. -/
theorem not_startsOperator_of_endsType {op : String}
    (hop : op.toList.head?.any (fun c => c != ',' && c != '>') = true) {rest : List Token}
    (h : EndsType rest) : startsOperator op rest = false := by
  refine Bool.eq_false_iff.2 fun hstarts => ?_
  obtain ⟨c, joint, after, hfirst, rfl⟩ := exists_of_startsOperator hop hstarts
  cases h <;> cases hfirst

/-- No group follows where a type ends. -/
theorem not_startsGroup_of_endsType (delimiter : Delimiter) {rest : List Token}
    (h : EndsType rest) : startsGroup delimiter rest = false := by
  cases h <;> rfl

end TypeSchema.Source
