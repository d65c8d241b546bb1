import TypeSchema.Source.Parser

/-!
# Rules of the grammar

Types, expressions, patterns, statements and items contain each other. The parser of each takes the
parsers of all of them as an argument, and `Rules` is the record of these; they are tied together
where the whole grammar is.
-/

namespace TypeSchema.Source

/-- How tightly operators bind, the loosest first. -/
inductive Precedence where
  | jump
  | assign
  | range
  | or
  | and
  | compare
  | bitOr
  | bitXor
  | bitAnd
  | shift
  | sum
  | product
  | cast
  deriving Repr, DecidableEq

namespace Precedence

/-- The place in the order. -/
def rank : Precedence → Nat
  | jump => 0
  | assign => 1
  | range => 2
  | or => 3
  | and => 4
  | compare => 5
  | bitOr => 6
  | bitXor => 7
  | bitAnd => 8
  | shift => 9
  | sum => 10
  | product => 11
  | cast => 12

end Precedence

/-- What the parts around an expression have to know of it. -/
inductive ExpressionForm where
  /-- A literal; its text if it is a string literal. -/
  | value (text : Option String)
  /-- A range. -/
  | range
  /-- A comparison. -/
  | comparison
  /-- A block or a form that ends with one, which is a statement by itself. -/
  | block
  /-- A macro call whose tokens stand in braces. -/
  | braceMacro
  /-- Any other expression. -/
  | other
  deriving Repr, DecidableEq

/-- What the parts around a pattern have to know of it. -/
inductive PatternForm where
  /-- Two points alone. -/
  | rest
  /-- A range without one of its ends. -/
  | openRange
  /-- Any other pattern. -/
  | other
  deriving Repr, DecidableEq

/-- The parsers that the grammar is made of. -/
structure Rules where
  /-- A type; may it be a sum of bounds? -/
  type : (sum : Bool) → Parser TypeSyntax
  /-- A bound; may it say what is captured? Is it a trait? -/
  bound : (capturing : Bool) → Parser Bool
  /-- A generic parameter; a comma after it is not part of it. -/
  parameter : Parser ParameterSyntax
  /-- An expression. -/
  expression : Parser ExpressionForm
  /-- An operand; may a struct literal stand here? -/
  operand : (struct : Bool) → Parser ExpressionForm
  /-- What follows a left operand, down to a precedence. -/
  operation : (struct : Bool) → ExpressionForm → Precedence → Parser ExpressionForm
  /-- An expression at the start of a statement. -/
  leading : Parser ExpressionForm
  /-- A pattern without alternatives. -/
  pattern : Parser PatternForm
  /-- The statements of a block. -/
  statements : Parser Unit
  /-- An item. -/
  item : Parser Item
  /-- The tree of a use declaration; has no path begun yet? -/
  useTree : (fresh : Bool) → Parser Unit

namespace Rules

/-- The rules that accept nothing. -/
def empty : Rules where
  type _ := failure
  bound _ := failure
  parameter := failure
  expression := failure
  operand _ := failure
  operation _ _ _ := failure
  leading := failure
  pattern := failure
  statements := failure
  item := failure
  useTree _ := failure

instance : Inhabited Rules := ⟨empty⟩

end Rules

namespace Grammar

open TypeSchema.Source.Parser

/-- A path of names alone, as in attributes and visibilities. -/
def plainPath : Parser (Bool × List Identifier) := do
  let rooted ← operator? "::"
  let segments ← iterate (fun read : List Identifier => do
    ensure (← peek fun ts => startsName ts || startsOneOf ["super", "self", "Self", "crate"] ts)
    let read := (← anyWord) :: read
    if ← operator? "::" then return .inl read else return .inr read.reverse) []
  return (rooted, segments)

/-- The tokens of a macro call after its path and the exclamation mark; are they in braces? -/
def macroTokens : Parser Bool := do
  let (delimiter, _) ← anyGroup
  return delimiter == .brace

/-- The tokens of a list with commas in which lifetimes are put first. Each part says whether it is
a lifetime and whether a comma follows it. -/
def lifetimesFirst (parts : List (Bool × List Token × Bool)) : List Token :=
  let comma : List Token := Token.operator ","
  let step (acc : List Token × Bool) (part : Bool × List Token × Bool) : List Token × Bool :=
    (acc.1 ++ (if acc.2 then [] else comma) ++ part.2.1 ++ (if part.2.2 then comma else []),
      part.2.2)
  let first := (parts.filter (·.1)).foldl step ([], true)
  ((parts.filter fun part => !part.1).foldl step first).1

/-- A list in angle brackets whose lifetimes are put first. Each part gives a value and says whether
it is a lifetime. -/
def angleList {α : Type} (part : Parser (Bool × α)) : Parser (List α) := do
  let (parts, _) ← aside do
    operator "<"
    let parts ← iterate (fun read : List (Bool × α × List Token × Bool) => do
      if ← peekOperator ">" then return .inr read.reverse
      let ((isLifetime, a), tokens) ← aside part
      if ← peekOperator ">" then return .inr ((isLifetime, a, tokens, false) :: read).reverse
      operator ","
      return .inl ((isLifetime, a, tokens, true) :: read)) []
    operator ">"
    return parts
  write (Token.operator "<" ++
    lifetimesFirst (parts.map fun (isLifetime, _, tokens, comma) => (isLifetime, tokens, comma)) ++
    Token.operator ">")
  return parts.map fun (_, a, _, _) => a

end Grammar

end TypeSchema.Source
