import TypeSchema.Source.Grammar.Item

/-!
# The grammar of source text

The rules of the grammar are tied together here: each level of `Rules.build` is made of the rules of
the level below. Rules call each other only a few times before one of them takes a token, so that the
number of tokens bounds the levels that can be needed.
-/

namespace TypeSchema.Source

/-- The rules of the grammar, with calls of each other nested at most so deeply. -/
def Rules.build : (depth : Nat) → Rules
  | 0 => .empty
  | depth + 1 =>
    { type := fun sum => .delay fun _ => Grammar.type (build depth) sum
      bound := fun capturing => .delay fun _ => Grammar.bound (build depth) capturing
      parameter := .delay fun _ => Grammar.parameter (build depth)
      expression := .delay fun _ => Grammar.expression (build depth)
      operand := fun struct => .delay fun _ => Grammar.operand (build depth) struct
      operation := fun struct left base =>
        .delay fun _ => Grammar.operation (build depth) struct left base
      leading := .delay fun _ => Grammar.leading (build depth)
      pattern := .delay fun _ => Grammar.pattern (build depth)
      statements := .delay fun _ => Grammar.statements (build depth)
      item := .delay fun _ => Grammar.item (build depth)
      useTree := fun fresh => .delay fun _ => Grammar.useTree (build depth) fresh }

namespace Grammar

open TypeSchema.Source.Parser

/-- Runs a parser over rules that may be nested as deeply as the tokens can need. -/
def run {α : Type} (p : Rules → Parser α) (start : ParseState) : Option (α × ParseState) :=
  (p (Rules.build (16 * (Token.sizes start.rest + 1)))).run start

/-- Reads all of the tokens. -/
def run? {α : Type} (p : Rules → Parser α) (tokens : List Token) : Option α := do
  let (a, after) ← run p { rest := tokens }
  if after.rest.isEmpty && after.complete then some a else none

/-- The items of a file. -/
def file (rules : Rules) : Parser (List Item) := do
  discard (innerAttributes rules)
  toEnd (item rules)

/-- The definition of a type with everything before it. -/
def derivable (rules : Rules) : Parser DefinitionSyntax := do
  let attributes ← outerAttributes rules
  discard visibility
  typeDefinition rules attributes

end Grammar

/-- The items of a source file. -/
def items? (text : String) : Option (List Item) := do
  Grammar.run? Grammar.file (← Lexer.fileTokens? text)

/-- The type definitions of a source file, in the order in which they are written. -/
def definitions? (text : String) : Option (List DefinitionSyntax) :=
  (items? text).map Item.definitionsOf

/-- The definition of a type that a text consists of. -/
def DefinitionSyntax.ofText? (text : String) : Option DefinitionSyntax := do
  Grammar.run? Grammar.derivable (← Lexer.tokens? text)

/-- The type that a text consists of. -/
def TypeSyntax.ofText? (text : String) : Option TypeSyntax := do
  Grammar.run? (fun rules => Grammar.type rules true) (← Lexer.tokens? text)

end TypeSchema.Source
