import TypeSchema.Source.Literal
import TypeSchema.Source.Syntax

/-!
# Parsers

A parser takes tokens from the front of a list. It keeps what it took, in the form in which it is
written again, so that a part of the source can be given as text. A group whose tokens are not all
taken does not stop the parser, but the source as a whole is then refused.

That a parser only goes on is part of what it is: every state it can reach comes after the one it
starts from. The few parsers that are made by hand say why; what is put together from them needs to
say nothing.
-/

namespace TypeSchema.Source

/-- Where a parser stands. -/
structure ParseState where
  /-- The tokens that are left. -/
  rest : List Token
  /-- The tokens that were taken, in reverse. -/
  taken : List Token := []
  /-- Were all groups read to their ends? -/
  complete : Bool := true

/-- Does one state come after another? Tokens are taken from the front only, and what was taken stays
written. -/
structure ParseState.Precedes (s after : ParseState) : Prop where
  /-- What is left then was left before. -/
  rest : after.rest <:+ s.rest
  /-- What was taken before is still written then, below what was added. -/
  taken : s.taken <:+ after.taken

namespace ParseState.Precedes

/-- A state comes before itself. -/
@[simp]
theorem refl (s : ParseState) : s.Precedes s := ⟨List.suffix_refl _, List.suffix_refl _⟩

/-- What comes before a state comes before all that come after it. -/
@[grind →]
theorem trans {s t u : ParseState} (h : s.Precedes t) (h' : t.Precedes u) : s.Precedes u :=
  ⟨h'.rest.trans h.rest, h.taken.trans h'.taken⟩

end ParseState.Precedes

/-- A parser. It fails without a reason. -/
structure Parser (α : Type) where
  /-- The result and the state after it, unless the parser fails. -/
  run : ParseState → Option (α × ParseState)
  /-- The parser only goes on. -/
  precedes {s after : ParseState} {a : α} : run s = some (a, after) → s.Precedes after

namespace Parser

variable {α : Type}

/-- The parser that takes nothing. -/
@[inline]
protected def pure (a : α) : Parser α where
  run s := some (a, s)
  precedes h := by
    cases h
    exact .refl _

/-- One parser after another. -/
@[inline]
protected def bind {β : Type} (p : Parser α) (f : α → Parser β) : Parser β where
  run s := (p.run s).bind fun x => (f x.1).run x.2
  precedes h := by
    obtain ⟨⟨a, s'⟩, hp, hf⟩ := Option.bind_eq_some_iff.1 h
    exact (p.precedes hp).trans ((f a).precedes hf)

instance : Monad Parser where
  pure := Parser.pure
  bind := Parser.bind

/-- The parser that always fails. -/
protected def failure : Parser α where
  run _ := none
  precedes h := by cases h

/-- A parser or, if it fails, another one from where it started. -/
@[inline]
protected def orElse (p : Parser α) (q : Unit → Parser α) : Parser α where
  run s := (p.run s).orElse fun _ => (q ()).run s
  precedes h := by
    rw [Option.orElse_eq_or, Option.or_eq_some_iff] at h
    obtain h | ⟨-, h⟩ := h
    · exact p.precedes h
    · exact (q ()).precedes h

instance : Alternative Parser where
  failure := Parser.failure
  orElse := Parser.orElse

/-- A parser that is made only when it runs. -/
def delay (p : Unit → Parser α) : Parser α where
  run s := (p ()).run s
  precedes h := (p ()).precedes h

/-- Where the parser stands. -/
def here : Parser ParseState where
  run s := some (s, s)
  precedes h := by
    cases h
    exact .refl _

/-- Writes tokens as taken. -/
def write (tokens : List Token) : Parser Unit where
  run s := some ((), { s with taken := tokens.reverse ++ s.taken })
  precedes h := by
    cases h
    exact ⟨List.suffix_refl _, List.suffix_append _ _⟩

/-- Drops the first tokens. -/
def drop (count : Nat) : Parser Unit where
  run s := some ((), { s with rest := s.rest.drop count })
  precedes h := by
    cases h
    exact ⟨List.drop_suffix _ _, List.suffix_refl _⟩

/-- Takes a group and reads its tokens with a parser of their own. -/
def group (delimiter : Delimiter) (inner : Parser α) : Parser α where
  run s :=
    match s.rest with
    | .group d tokens :: rest =>
      if d == delimiter then
        (inner.run { rest := tokens }).map fun (a, after) =>
          (a, { rest, taken := .group delimiter after.taken.reverse :: s.taken,
                complete := s.complete && after.complete && after.rest.isEmpty })
      else none
    | _ => none
  precedes {s after a} h := by
    split at h
    · next d tokens rest hrest =>
      split at h
      · obtain ⟨x, -, hx⟩ := Option.map_eq_some_iff.1 h
        cases hx
        exact ⟨hrest ▸ List.suffix_cons _ _, List.suffix_cons _ _⟩
      · cases h
    · cases h

/-- Runs a parser without keeping the tokens it takes, and gives them beside its result. -/
def aside (p : Parser α) : Parser (α × List Token) where
  run s := (p.run { s with taken := [] }).map fun (a, after) =>
    ((a, after.taken.reverse), { after with taken := s.taken })
  precedes h := by
    obtain ⟨x, hp, hx⟩ := Option.map_eq_some_iff.1 h
    cases hx
    exact ⟨(p.precedes hp).rest, List.suffix_refl _⟩

section

variable {β : Type} (p : Parser α) (s : ParseState)

/-- What is simply given is read from nothing. -/
@[simp]
theorem run_pure (a : α) : (pure a : Parser α).run s = some (a, s) := rfl

/-- One parser after another goes on where the first ends. -/
@[simp]
theorem run_bind (f : α → Parser β) :
    (p >>= f).run s = (p.run s).bind fun x => (f x.1).run x.2 := rfl

/-- A failure has no run. -/
@[simp]
theorem run_failure : (failure : Parser α).run s = none := rfl

/-- A parser that is put off is run like any other. -/
@[simp]
theorem run_delay (q : Unit → Parser α) : (delay q).run s = (q ()).run s := rfl

/-- The state is given as it is. -/
@[simp]
theorem run_here : here.run s = some (s, s) := rfl

/-- Tokens are written behind those that were before, the last one first. -/
@[simp]
theorem run_write (tokens : List Token) :
    (write tokens).run s = some ((), { s with taken := tokens.reverse ++ s.taken }) := rfl

/-- Tokens are dropped from the front. -/
@[simp]
theorem run_drop (count : Nat) :
    (drop count).run s = some ((), { s with rest := s.rest.drop count }) := rfl

end

end Parser

/-! ## What stands at the front -/

/-- Do the characters of an operator stand here? All but the last must be joint. -/
def startsChars : List Char → List Token → Bool
  | [c], .punct d _ :: _ => c == d
  | c :: more, .punct d joint :: rest => c == d && joint && startsChars more rest
  | _, _ => false

/-- Does an operator stand here? A longer one may. -/
def startsOperator (op : String) (tokens : List Token) : Bool := startsChars op.toList tokens

/-- Does the given plain word stand here? -/
def startsWord (word : String) : List Token → Bool
  | .word name raw :: _ => !raw && name == word
  | _ => false

/-- The words that are no names. -/
def reservedWords : List String :=
  ["_", "abstract", "as", "async", "await", "become", "box", "break", "const", "continue", "crate",
    "do", "dyn", "else", "enum", "extern", "false", "final", "fn", "for", "if", "impl", "in", "let",
    "loop", "macro", "match", "mod", "move", "mut", "override", "priv", "pub", "ref", "return",
    "Self", "self", "static", "struct", "super", "trait", "true", "try", "type", "typeof", "unsafe",
    "unsized", "use", "virtual", "where", "while", "yield"]

/-- Does a name stand here? -/
def startsName : List Token → Bool
  | .word name raw :: _ => raw || name ∉ reservedWords
  | _ => false

/-- Does any word stand here? -/
def startsAnyWord : List Token → Bool
  | .word _ _ :: _ => true
  | _ => false

/-- Does a lifetime stand here? -/
def startsLifetime : List Token → Bool
  | .lifetime _ :: _ => true
  | _ => false

/-- Does a string literal stand here? -/
def startsString : List Token → Bool
  | .literal text :: _ => (Literal.string? text).isSome
  | _ => false

/-- Does a literal value stand here: a literal, a truth value or a negative number? -/
def startsValue : List Token → Bool
  | .literal _ :: _ => true
  | .word name raw :: _ => !raw && (name == "true" || name == "false")
  | .punct '-' _ :: .literal text :: _ => Literal.isNumber text
  | _ => false

/-- Does a group stand here? -/
def startsGroup (delimiter : Delimiter) : List Token → Bool
  | .group d _ :: _ => d == delimiter
  | _ => false

/-- Does one of several words stand here? -/
def startsOneOf (words : List String) (tokens : List Token) : Bool :=
  words.any (startsWord · tokens)

/-- Does a path stand here that begins with a name or a word for a module? -/
def startsPath (tokens : List Token) : Bool :=
  startsName tokens || startsOneOf ["self", "super", "crate"] tokens || startsOperator "::" tokens

namespace Parser

/-! ## Looking -/

/-- Looks at the tokens that are left. -/
def peek (test : List Token → Bool) : Parser Bool := do return test (← here).rest

/-- Does an operator stand here? -/
def peekOperator (op : String) : Parser Bool := peek (startsOperator op)

/-- Does a plain word stand here? -/
def peekWord (word : String) : Parser Bool := peek (startsWord word)

/-- Does a group stand here? -/
def peekGroup (delimiter : Delimiter) : Parser Bool := peek (startsGroup delimiter)

/-- Is no token left? -/
def atEnd : Parser Bool := peek List.isEmpty

/-- Goes on only under a condition. -/
def ensure (condition : Bool) : Parser Unit := if condition then pure () else failure

/-! ## Taking -/

/-- Takes an operator. -/
def operator (op : String) : Parser Unit := do
  ensure (← peekOperator op)
  drop op.length
  write (Token.operator op)

/-- Takes an operator if it stands here. -/
def operator? (op : String) : Parser Bool := do
  if ← peekOperator op then do operator op; return true else return false

/-- Takes any word. -/
def anyWord : Parser Identifier := do
  match (← here).rest with
  | .word name raw :: _ =>
    drop 1
    write [.word name raw]
    return { name, raw }
  | _ => failure

/-- Takes the given plain word. -/
def word (name : String) : Parser Unit := do
  ensure (← peekWord name)
  discard anyWord

/-- Takes the given plain word if it stands here. -/
def word? (name : String) : Parser Bool := do
  if ← peekWord name then do word name; return true else return false

/-- Takes a name. -/
def name : Parser Identifier := do
  ensure (← peek startsName)
  anyWord

/-- Takes a name or an underscore. -/
def nameOrBlank : Parser Identifier := do
  ensure (← peek fun ts => startsName ts || startsWord "_" ts)
  anyWord

/-- Takes a lifetime. -/
def lifetime : Parser Token := do
  match (← here).rest with
  | .lifetime text :: _ =>
    drop 1
    write [.lifetime text]
    return .lifetime text
  | _ => failure

/-- Takes a lifetime if one stands here. -/
def lifetime? : Parser Bool := do
  if ← peek startsLifetime then do discard lifetime; return true else return false

/-- Takes a literal value and gives the text of a string literal. -/
def value : Parser (Option String) := do
  match (← here).rest with
  | .literal text :: _ =>
    drop 1
    write [.literal text]
    return Literal.string? text
  | .punct '-' _ :: .literal text :: _ =>
    ensure (Literal.isNumber text)
    drop 2
    write [.punct '-' false, .literal text]
    return none
  | tokens =>
    ensure (startsOneOf ["true", "false"] tokens)
    discard anyWord
    return none

/-- Takes all tokens that are left, as they are. -/
def everything : Parser (List Token) := do
  let tokens := (← here).rest
  drop tokens.length
  write tokens
  return tokens

/-- Takes a group of any kind with its tokens as they are, and gives its kind and the tokens. -/
def anyGroup : Parser (Delimiter × List Token) := do
  match (← here).rest with
  | .group delimiter tokens :: _ =>
    drop 1
    write [.group delimiter tokens]
    return (delimiter, tokens)
  | _ => failure

/-- Gives the tokens that a parser takes beside its result. -/
def capture {α : Type} (p : Parser α) : Parser (α × List Token) := do
  let (a, tokens) ← aside p
  write tokens
  return (a, tokens)

/-- Is the last token that was taken a group in braces? -/
def endsWithBrace : Parser Bool := do return startsGroup .brace (← here).taken

/-! ## Repeating -/

/-- Repeats a step, at most `fuel` times, until it gives a result. -/
def repeatFrom {α β : Type} (step : α → Parser (α ⊕ β)) : (fuel : Nat) → α → Parser β
  | 0, _ => failure
  | fuel + 1, a => do
    match ← step a with
    | .inl a => repeatFrom step fuel a
    | .inr b => return b

/-- Repeats a step that takes at least one token unless it is the last. -/
def iterate {α β : Type} (step : α → Parser (α ⊕ β)) (a : α) : Parser β := do
  repeatFrom step ((← here).rest.length + 1) a

/-- Reads while a test holds. -/
def whileStarts {α : Type} (test : List Token → Bool) (p : Parser α) : Parser (List α) :=
  iterate (fun read : List α => do
    if ← peek test then return .inl ((← p) :: read) else return .inr read.reverse) []

/-- Reads to the end of the tokens. -/
def toEnd {α : Type} (p : Parser α) : Parser (List α) :=
  whileStarts (fun tokens => !tokens.isEmpty) p

/-- Reads a list with commas between the parts and perhaps one at the end, up to where a test
holds. -/
def listUntil {α : Type} (stop : List Token → Bool) (p : Parser α) : Parser (List α) :=
  iterate (fun read : List α => do
    if ← peek stop then return .inr read.reverse
    let read := (← p) :: read
    if ← peek stop then return .inr read.reverse
    operator ","
    return .inl read) []

/-- Reads a list with commas up to the end of the tokens. -/
def listToEnd {α : Type} (p : Parser α) : Parser (List α) := listUntil List.isEmpty p

/-- Reads parts with an operator between them and perhaps at the end: as long as the operator
follows and the test does not hold. -/
def chainUntil (stop : List Token → Bool) (op : String) (p : Parser Unit) : Parser Unit :=
  iterate (fun _ : Unit => do
    if ← peek stop then return .inr ()
    p
    if ← operator? op then return .inl () else return .inr ()) ()

end Parser

end TypeSchema.Source
