import TypeSchema.Source.Grammar.Rules

/-!
# Operators

The operators between two operands, with how tightly they bind, and what may begin or must end an
operand.
-/

namespace TypeSchema.Source.Grammar

open TypeSchema.Source.Parser

/-- The binary operators, each before those it begins with. -/
def binaryOperators : List (String × Precedence) :=
  [("+=", .assign), ("-=", .assign), ("*=", .assign), ("/=", .assign), ("%=", .assign),
    ("^=", .assign), ("&=", .assign), ("|=", .assign), ("<<=", .assign), (">>=", .assign),
    ("&&", .and), ("||", .or), ("<<", .shift), (">>", .shift), ("==", .compare), ("<=", .compare),
    ("!=", .compare), (">=", .compare), ("+", .sum), ("-", .sum), ("*", .product), ("/", .product),
    ("%", .product), ("^", .bitXor), ("&", .bitAnd), ("|", .bitOr), ("<", .compare),
    (">", .compare)]

/-- The binary operator that stands here. -/
def binaryOperator? (tokens : List Token) : Option (String × Precedence) :=
  binaryOperators.find? fun op => startsOperator op.1 tokens

/-- Does the sign of an assignment stand here? -/
def startsAssignment (tokens : List Token) : Bool :=
  startsOperator "=" tokens && !startsOperator "=>" tokens

/-- How tightly the operator that stands here binds. What is no operator binds least. -/
def precedenceAt (tokens : List Token) : Precedence :=
  match binaryOperator? tokens with
  | some (_, precedence) => precedence
  | none =>
    if startsAssignment tokens then .assign
    else if startsOperator ".." tokens then .range
    else if startsWord "as" tokens then .cast
    else .jump

/-- Is it a point that is not the start of a range? -/
def startsPoint (tokens : List Token) : Bool :=
  startsOperator "." tokens && !startsOperator ".." tokens

/-- May an expression begin here? -/
def startsExpression (tokens : List Token) : Bool :=
  startsAnyWord tokens || startsGroup .parenthesis tokens || startsGroup .bracket tokens ||
    startsGroup .brace tokens || startsValue tokens ||
    startsOperator "!" tokens && !startsOperator "!=" tokens ||
    startsOperator "-" tokens && !startsOperator "-=" tokens && !startsOperator "->" tokens ||
    startsOperator "*" tokens && !startsOperator "*=" tokens ||
    startsOperator "|" tokens && !startsOperator "|=" tokens ||
    startsOperator "&" tokens && !startsOperator "&=" tokens ||
    startsOperator ".." tokens ||
    startsOperator "<" tokens && !startsOperator "<=" tokens && !startsOperator "<<=" tokens ||
    startsOperator "::" tokens || startsLifetime tokens || startsOperator "#" tokens

/-- Operators that cannot begin the end of a range. -/
def afterOpenRange : List String :=
  [",", ";", "?", "=>", "=", "+", "/", "%", "^", ">", "<=", "!=", "-=", "*=", "&=", "|=", "<<="]

/-- Does a range end here without a second operand? -/
def endsOpenRange (struct : Bool) (tokens : List Token) : Bool :=
  tokens.isEmpty || startsPoint tokens || afterOpenRange.any (startsOperator · tokens) ||
    !struct && startsGroup .brace tokens || startsWord "as" tokens

/-- Do generic parameters stand here, and not a type in angle brackets? -/
def startsParameters (tokens : List Token) : Bool :=
  let second := tokens.drop 1
  let third := tokens.drop 2
  startsOperator "<" tokens &&
    (startsOperator ">" second || startsOperator "#" second ||
      (startsLifetime second || startsName second) &&
        (startsOperator ">" third || startsOperator "," third ||
          startsOperator ":" third && !startsOperator "::" third || startsOperator "=" third) ||
      startsWord "const" second)

/-- Does a closure begin here? -/
def startsClosure (tokens : List Token) : Bool :=
  let second := tokens.drop 1
  startsOperator "|" tokens || startsWord "move" tokens ||
    startsWord "for" tokens && startsParameters second ||
    startsWord "const" tokens && !startsGroup .brace second ||
    startsWord "static" tokens ||
    startsWord "async" tokens && (startsOperator "|" second || startsWord "move" second)

/-- Does a block that runs later begin here? -/
def startsAsyncBlock (tokens : List Token) : Bool :=
  let second := tokens.drop 1
  startsWord "async" tokens &&
    (startsGroup .brace second || startsWord "move" second && startsGroup .brace (tokens.drop 2))

/-- Does a loop over values begin here, and not a closure? -/
def startsForLoop (tokens : List Token) : Bool :=
  startsWord "for" tokens && !startsParameters (tokens.drop 1)

end TypeSchema.Source.Grammar
