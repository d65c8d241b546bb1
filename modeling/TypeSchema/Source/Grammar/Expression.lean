import TypeSchema.Source.Grammar.Operator
import TypeSchema.Source.Grammar.Pattern

/-!
# The grammar of expressions

An expression is operands with operators between them. An operand is a form of its own, such as a
literal, a path, a block or a loop, with calls, fields and indices after it.
-/

namespace TypeSchema.Source.Grammar

open TypeSchema.Source.Parser

/-! ## Blocks and what contains them -/

/-- A block with attributes at its start. -/
def body (rules : Rules) : Parser Unit :=
  group .brace do
    discard (innerAttributes rules)
    rules.statements

/-- A block without attributes. -/
def plainBlock (rules : Rules) : Parser Unit := group .brace rules.statements

/-- An expression in which no struct literal may stand, for what comes before a block. -/
def condition (rules : Rules) : Parser Unit := do
  let left ← rules.operand false
  discard (rules.operation false left .jump)

/-- What follows `if`: a condition and a block, and perhaps what is done otherwise. -/
def conditional (rules : Rules) : Parser Unit :=
  iterate (fun _ : Unit => do
    word "if"
    condition rules
    plainBlock rules
    if ← word? "else" then
      if ← peekWord "if" then return .inl ()
      plainBlock rules
    return .inr ()) ()

/-- An arm of a match. Without a block it ends with a comma, unless it is the last one. -/
def arm (rules : Rules) : Parser Unit := do
  discard (outerAttributes rules)
  discard (patternChoice rules)
  if ← word? "if" then discard rules.expression
  operator "=>"
  let form ← rules.leading
  if form != .block && !(← atEnd) then operator "," else discard (operator? ",")

/-- A match. -/
def matching (rules : Rules) : Parser Unit := do
  word "match"
  condition rules
  group .brace do
    discard (innerAttributes rules)
    discard (toEnd (arm rules))

/-- A loop, or a block, that may have a label. -/
def repetition (rules : Rules) : Parser Unit := do
  if ← word? "while" then
    condition rules
    body rules
  else if ← word? "for" then
    discard (patternChoice rules)
    word "in"
    condition rules
    body rules
  else if ← word? "loop" then body rules
  else body rules

/-- A label and what it belongs to. -/
def labeled (rules : Rules) : Parser ExpressionForm := do
  discard lifetime
  operator ":"
  ensure (← peek fun ts => startsOneOf ["while", "for", "loop"] ts || startsGroup .brace ts)
  repetition rules
  return .block

/-! ## Other forms -/

/-- The argument of a closure. -/
def closureArgument (rules : Rules) : Parser Unit := do
  discard (outerAttributes rules)
  discard rules.pattern
  if ← operator? ":" then discard (rules.type true)

/-- A closure. -/
def closure (rules : Rules) (struct : Bool) : Parser Unit := do
  discard (forParameters rules)
  for modifier in ["const", "static", "async", "move"] do
    discard (word? modifier)
  operator "|"
  discard (listUntil (startsOperator "|") (closureArgument rules))
  operator "|"
  if ← operator? "->" then
    discard (rules.type true)
    plainBlock rules
  else
    let left ← rules.operand struct
    discard (rules.operation struct left .jump)

/-- A value that something is left with, if there is one. -/
def optionalValue (rules : Rules) (struct : Bool) : Parser Unit := do
  if ← peek startsExpression then
    let left ← rules.operand struct
    discard (rules.operation struct left .jump)

/-- What follows `break`. -/
def afterBreak (rules : Rules) (struct : Bool) : Parser Unit := do
  if ← lifetime? then ensure (!(← peekOperator ":"))
  if struct || !(← peekGroup .brace) then optionalValue rules struct

/-- The fields of a struct literal. -/
def fieldValues (rules : Rules) : Parser Unit :=
  iterate (fun _ : Unit => do
    if ← atEnd then return .inr ()
    if ← operator? ".." then
      if !(← atEnd) then discard rules.expression
      return .inr ()
    discard (outerAttributes rules)
    let named ← member
    if !named || (← peekOperator ":") then
      operator ":"
      discard rules.expression
    if ← atEnd then return .inr ()
    operator ","
    return .inl ()) ()

/-- A path, and the macro call or struct literal it begins. -/
def pathExpression (rules : Rules) (struct : Bool) : Parser ExpressionForm := do
  let (qualified, path) ← qualifiedPath rules true
  if !qualified && path.plain &&
      (← peek fun ts => startsOperator "!" ts && !startsOperator "!=" ts) then
    operator "!"
    return if ← macroTokens then .braceMacro else .other
  if struct && (← peekGroup .brace) then group .brace (fieldValues rules)
  return .other

/-- What stands in the brackets of an array: its items, or one item and how often it stands there. -/
def arrayItems (rules : Rules) : Parser Unit := do
  if ← atEnd then return ()
  discard rules.expression
  if ← operator? ";" then
    discard rules.expression
    return ()
  if ← atEnd then return ()
  operator ","
  discard (listToEnd rules.expression)

/-- What stands in parentheses: nothing, one expression, or several with commas. -/
def parenthesizedItems (rules : Rules) : Parser Unit := discard (listToEnd rules.expression)

/-- An open end of a range, or its second operand. -/
def secondOperand (struct : Bool) (right : Parser Unit) : Parser Unit := do
  let mayMiss ← if ← operator? "..=" then pure false else do
    ensure (!(← peekOperator "..."))
    operator ".."
    pure true
  if mayMiss && (← peek (endsOpenRange struct)) then return ()
  right

/-- A condition that binds names. -/
def binding (rules : Rules) : Parser Unit := do
  word "let"
  discard (patternChoice rules)
  operator "="
  let left ← rules.operand false
  discard (rules.operation false left .compare)

/-! ## Operators -/

/-- The right operand of an operator: operators that bind more tightly belong to it. -/
def rightOperand (rules : Rules) (struct : Bool) (precedence : Precedence) : Parser Unit := do
  let first ← rules.operand struct
  iterate (fun right : ExpressionForm => do
    let before := (← here).rest.length
    let next := precedenceAt (← here).rest
    if precedence.rank < next.rank || next == precedence && precedence == .assign then
      let right ← rules.operation struct right next
      if (← here).rest.length == before then return .inr () else return .inl right
    else return .inr ()) first

/-- What follows a left operand: operators down to a precedence, with their right operands. -/
def operation (rules : Rules) (struct : Bool) (left : ExpressionForm) (base : Precedence) :
    Parser ExpressionForm :=
  iterate (fun left : ExpressionForm => do
    if left == .range then return .inr left
    let tokens := (← here).rest
    match binaryOperator? tokens with
    | some (op, precedence) =>
      if precedence.rank < base.rank then return .inr left
      ensure (!(precedence == .compare && left == .comparison))
      operator op
      rightOperand rules struct precedence
      return .inl (if precedence == .compare then .comparison else .other)
    | none =>
      if Precedence.assign.rank ≥ base.rank && startsAssignment tokens then
        operator "="
        rightOperand rules struct .assign
        return .inl .other
      if Precedence.range.rank ≥ base.rank && startsOperator ".." tokens then
        secondOperand struct (rightOperand rules struct .range)
        return .inl .range
      if Precedence.cast.rank ≥ base.rank && startsWord "as" tokens then
        word "as"
        discard (rules.type false)
        ensure (!(← peek fun ts => startsPoint ts || startsOperator "?" ts ||
          startsGroup .bracket ts || startsGroup .parenthesis ts))
        return .inl .other
      return .inr left) left

/-! ## Operands -/

/-- An operand without calls, fields and indices after it. -/
def atom (rules : Rules) (struct : Bool) : Parser ExpressionForm := do
  let tokens := (← here).rest
  let second := tokens.drop 1
  if startsValue tokens then return .value (← value)
  if startsAsyncBlock tokens then
    word "async"
    discard (word? "move")
    plainBlock rules
    return .other
  if startsWord "try" tokens && startsGroup .brace second then
    word "try"
    plainBlock rules
    return .block
  if startsClosure tokens then
    closure rules struct
    return .other
  if startsWord "builtin" tokens && startsOperator "#" second then
    word "builtin"
    operator "#"
    discard name
    discard (group .parenthesis everything)
    return .other
  if startsPath tokens || startsOperator "<" tokens || startsWord "Self" tokens ||
      startsWord "try" tokens && (startsOperator "!" second || startsOperator "::" second) then
    return ← pathExpression rules struct
  if startsGroup .parenthesis tokens then
    group .parenthesis (parenthesizedItems rules)
    return .other
  if ← word? "break" then
    afterBreak rules struct
    return .other
  if ← word? "continue" then
    discard lifetime?
    return .other
  if ← word? "return" then
    optionalValue rules struct
    return .other
  if ← word? "become" then
    discard rules.expression
    return .other
  if startsGroup .bracket tokens then
    group .bracket (arrayItems rules)
    return .other
  if startsWord "let" tokens then
    binding rules
    return .other
  if startsWord "if" tokens then
    conditional rules
    return .block
  if startsWord "match" tokens then
    matching rules
    return .block
  if ← word? "yield" then
    optionalValue rules true
    return .other
  if startsOneOf ["unsafe", "const"] tokens then
    discard anyWord
    body rules
    return .block
  if startsOneOf ["while", "for", "loop"] tokens || startsGroup .brace tokens then
    repetition rules
    return .block
  if startsOperator ".." tokens then
    secondOperand struct (rightOperand rules struct .range)
    return .range
  if ← word? "_" then return .other
  labeled rules

/-- The fields that a number with points names after a point: `x.0.1`. Does the last point of the
number stand alone, so that another member follows? -/
def numberedFields (text : String) : Parser Bool := do
  let chars := text.toList
  let dangling := chars.getLast? == some '.'
  let parts := Literal.splitAtPoints (if dangling then chars.dropLast else chars)
  ensure (parts.all Literal.isIndex)
  let names := parts.map fun part => [Token.literal (String.ofList part)]
  drop 1
  write (List.intercalate (Token.operator ".") names)
  if dangling then write (Token.operator ".")
  return dangling

/-- A member of a value after a point, with the arguments if it is called. -/
def memberAccess (rules : Rules) : Parser Unit := do
  if ← word? "await" then return ()
  let named ← member
  let turbofish := named && (← peekOperator "::")
  if turbofish then
    operator "::"
    discard (angleList (genericArgument rules))
  if turbofish || (← peekGroup .parenthesis) then
    group .parenthesis (parenthesizedItems rules)

/-- What follows a point. -/
def afterPoint (rules : Rules) : Parser Unit := do
  match (← here).rest with
  | .literal text :: _ =>
    if Literal.isFraction text then
      if ← numberedFields text then memberAccess rules
    else memberAccess rules
  | _ => memberAccess rules

/-- Calls, members, indices and question marks after an operand. -/
def trailers (rules : Rules) (form : ExpressionForm) : Parser ExpressionForm :=
  iterate (fun form : ExpressionForm => do
    if ← peekGroup .parenthesis then
      group .parenthesis (parenthesizedItems rules)
      return .inl .other
    if form != .range && (← peek startsPoint) then
      operator "."
      afterPoint rules
      return .inl .other
    if ← peekGroup .bracket then
      group .bracket (discard rules.expression)
      return .inl .other
    if form != .range && (← peekOperator "?") then
      operator "?"
      return .inl .other
    return .inr form) form

/-- An operand, with the signs before it and what follows it. -/
def operand (rules : Rules) (struct : Bool) : Parser ExpressionForm := do
  discard (outerAttributes rules)
  if ← operator? "&" then
    if ← peek fun ts => startsWord "raw" ts && startsOneOf ["mut", "const"] (ts.drop 1) then
      discard anyWord
      discard anyWord
    else discard (word? "mut")
    discard (rules.operand struct)
    return .other
  if ← peek fun ts => startsOperator "*" ts || startsOperator "!" ts || startsOperator "-" ts then
    if !(← operator? "*") then
      if !(← operator? "!") then operator "-"
    discard (rules.operand struct)
    return .other
  trailers rules (← atom rules struct)

/-- An expression. -/
def expression (rules : Rules) : Parser ExpressionForm := do
  let left ← rules.operand true
  rules.operation true left .jump

/-- A form that may be a statement by itself, if one stands here. -/
def blockForm (rules : Rules) : Parser Bool := do
  let tokens := (← here).rest
  let second := tokens.drop 1
  if startsWord "if" tokens then conditional rules
  else if startsWord "match" tokens then matching rules
  else if startsWord "while" tokens || startsForLoop tokens || startsWord "loop" tokens ||
      startsGroup .brace tokens then repetition rules
  else if startsWord "try" tokens && startsGroup .brace second then
    word "try"
    plainBlock rules
  else if startsWord "unsafe" tokens ||
      startsWord "const" tokens && startsGroup .brace second then
    discard anyWord
    body rules
  else if startsLifetime tokens then discard (labeled rules)
  else return false
  return true

/-- An expression at the start of a statement. A form that ends with a block is a statement by
itself and no left operand, unless a point or a question mark follows. -/
def leading (rules : Rules) : Parser ExpressionForm := do
  discard (outerAttributes rules)
  if ← blockForm rules then
    if ← peek fun ts => startsPoint ts || startsOperator "?" ts then
      rules.operation true (← trailers rules .block) .jump
    else return .block
  else rules.expression

end TypeSchema.Source.Grammar
