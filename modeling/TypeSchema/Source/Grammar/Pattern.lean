import TypeSchema.Source.Grammar.Path

/-!
# The grammar of patterns

A pattern is a name, a path with what it is applied to, a literal, a range, or patterns between
brackets.
-/

namespace TypeSchema.Source.Grammar

open TypeSchema.Source.Parser

/-- Does an alternative follow a pattern? -/
def startsAlternative (tokens : List Token) : Bool :=
  startsOperator "|" tokens && !startsOperator "||" tokens && !startsOperator "|=" tokens

/-- A pattern with alternatives; a bar may stand before the first. -/
def patternChoice (rules : Rules) : Parser PatternForm := do
  let bar ← operator? "|"
  let first ← rules.pattern
  let others ← whileStarts startsAlternative do
    operator "|"
    rules.pattern
  return if bar || !others.isEmpty then .other else first

/-- An end of a range, if there is one. -/
def rangeEnd (rules : Rules) : Parser Bool := do
  if ← peek fun ts => ts.isEmpty || startsOperator "|" ts || startsOperator "=" ts ||
      startsOperator ":" ts && !startsOperator "::" ts || startsOperator "," ts ||
      startsOperator ";" ts || startsWord "if" ts then return false
  if ← peek startsValue then discard value
  else if ← peek fun ts => startsPath ts || startsWord "Self" ts || startsOperator "<" ts then
    discard (qualifiedPath rules true)
  else
    word "const"
    labeledBlock rules
  return true

/-- The sign of a range: may its end be missing? -/
def rangeSign : Parser Bool := do
  if ← operator? "..=" then return false
  if ← operator? "..." then return false
  operator ".."
  return true

/-- The rest of a range that has a start. -/
def rangeRest (rules : Rules) : Parser PatternForm := do
  let mayMiss ← rangeSign
  let hasEnd ← rangeEnd rules
  ensure (mayMiss || hasEnd)
  return if hasEnd then .other else .openRange

/-- A member of a struct: is it a name? -/
def member : Parser Bool := do
  match (← here).rest with
  | .literal text :: _ =>
    ensure (Literal.isIndex text.toList)
    discard value
    return false
  | _ =>
    discard name
    return true

/-- A field in the pattern of a struct. -/
def fieldPattern (rules : Rules) : Parser Unit := do
  let boxed ← word? "box"
  let byRef ← word? "ref"
  let mutable ← word? "mut"
  if boxed || byRef || mutable then discard name
  else
    let named ← member
    if !named || (← peekOperator ":") then
      operator ":"
      discard (patternChoice rules)

/-- The fields in the pattern of a struct. -/
def fieldPatterns (rules : Rules) : Parser Unit :=
  iterate (fun _ : Unit => do
    if ← atEnd then return .inr ()
    discard (outerAttributes rules)
    if ← operator? ".." then return .inr ()
    fieldPattern rules
    if ← atEnd then return .inr ()
    operator ","
    return .inl ()) ()

/-- A pattern that starts with a path. -/
def pathPattern (rules : Rules) : Parser PatternForm := do
  let (qualified, path) ← qualifiedPath rules true
  if !qualified && path.plain &&
      (← peek fun ts => startsOperator "!" ts && !startsOperator "!=" ts) then
    operator "!"
    discard macroTokens
    return .other
  if ← peekGroup .brace then
    group .brace (fieldPatterns rules)
    return .other
  if ← peekGroup .parenthesis then
    discard (group .parenthesis (listToEnd (patternChoice rules)))
    return .other
  if ← peekOperator ".." then return ← rangeRest rules
  return .other

/-- Does a path start a pattern here? A name alone does not. -/
def startsPathPattern (tokens : List Token) : Bool :=
  let after := tokens.drop 1
  startsName tokens &&
      (startsOperator "::" after || startsOperator "!" after || startsGroup .brace after ||
        startsGroup .parenthesis after || startsOperator ".." after) ||
    startsWord "self" tokens && startsOperator "::" after ||
    startsOperator "::" tokens || startsOperator "<" tokens ||
    startsOneOf ["Self", "super", "crate"] tokens

/-- A name that a value is bound to, perhaps with a pattern of its own. -/
def namePattern (rules : Rules) : Parser Unit := do
  discard (word? "ref")
  discard (word? "mut")
  discard (if ← peekWord "self" then anyWord else name)
  if ← operator? "@" then discard rules.pattern

/-- Patterns between brackets. A range without an end needs parentheses there. -/
def slicePatterns (rules : Rules) : Parser Unit := do
  discard (listToEnd do
    let form ← patternChoice rules
    ensure (form != .openRange))

/-- A pattern without alternatives. -/
def pattern (rules : Rules) : Parser PatternForm := do
  if ← peek startsPathPattern then return ← pathPattern rules
  if ← word? "_" then return .other
  if ← word? "box" then
    discard rules.pattern
    return .other
  if ← peek fun ts => startsOperator "-" ts || startsValue ts || startsWord "const" ts then
    ensure (← rangeEnd rules)
    if ← peekOperator ".." then return ← rangeRest rules
    return .other
  if ← peek fun ts => startsName ts || startsOneOf ["ref", "mut", "self"] ts then
    namePattern rules
    return .other
  if ← operator? "&" then
    discard (word? "mut")
    discard rules.pattern
    return .other
  if ← peekGroup .parenthesis then
    discard (group .parenthesis (listToEnd (patternChoice rules)))
    return .other
  if ← peekGroup .bracket then
    group .bracket (slicePatterns rules)
    return .other
  ensure (!(← peekOperator "..."))
  if ← operator? "..=" then
    ensure (← rangeEnd rules)
    return .openRange
  operator ".."
  if ← rangeEnd rules then return .openRange else return .rest

end TypeSchema.Source.Grammar
