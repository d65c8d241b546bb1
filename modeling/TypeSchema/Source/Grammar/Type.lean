import TypeSchema.Source.Grammar.Path

/-!
# The grammar of types

A type is a path, a reference, a list in brackets, types in parentheses, a function type, or a sum
of bounds.
-/

namespace TypeSchema.Source.Grammar

open TypeSchema.Source.Parser

/-- The convention after `extern`, if that word stands here. -/
def callConvention : Parser Bool := do
  if ← word? "extern" then
    if ← peek startsString then discard value
    return true
  else return false

/-- Three points that stand for more arguments, perhaps after a name. -/
def startsMoreArguments (tokens : List Token) : Bool :=
  startsOperator "..." tokens ||
    (startsName tokens || startsWord "_" tokens) && startsOperator ":" (tokens.drop 1) &&
      startsOperator "..." (tokens.drop 2)

/-- An argument of a function type, perhaps with a name. -/
def functionTypeArgument (rules : Rules) (first : Bool) : Parser Unit := do
  if first && (← peek fun ts => startsWord "mut" ts && startsWord "self" (ts.drop 1)) then
    word "mut"
  let named ← peek fun ts =>
    (startsName ts || startsWord "_" ts || first && startsWord "self" ts) &&
      startsOperator ":" (ts.drop 1) && !startsOperator "::" (ts.drop 1)
  if named then
    discard anyWord
    operator ":"
  discard (rules.type true)

/-- The arguments of a function type. -/
def functionTypeArguments (rules : Rules) : Parser Unit :=
  iterate (fun first : Bool => do
    if ← atEnd then return .inr ()
    discard (outerAttributes rules)
    if ← peek startsMoreArguments then
      if !(← peekOperator "...") then
        discard anyWord
        operator ":"
      operator "..."
      discard (operator? ",")
      return .inr ()
    functionTypeArgument rules first
    if ← atEnd then return .inr ()
    operator ","
    return .inl false) true

/-- A function type after the lifetimes it holds for. -/
def functionType (rules : Rules) : Parser Unit := do
  discard (word? "unsafe")
  discard callConvention
  word "fn"
  group .parenthesis (functionTypeArguments rules)
  discard (returnType rules false)

/-- The path of a type, with arguments in parentheses where it may have some. -/
def typePath (rules : Rules) : Parser (Bool × Path) := do
  let (qualified, path) ← qualifiedPath rules false
  let path ← iterate (fun path : Path => do
    if path.acceptsCall && (← peek startsCallArguments) then
      let output ← callArguments rules
      let path := { path with arguments := .parenthesized, plain := false }
      match output with
      | none | some (.parenthesized _) => return .inl (← pathRest rules false path)
      | _ => return .inl path
    else return .inr path) path
  return (qualified, path)

/-- What is known of a type before its tokens are. -/
inductive TypeForm where
  | path (last : Identifier) (arguments : List ArgumentSyntax) (simple : Bool)
  | reference (inner : TypeSyntax)
  | parenthesized (inner : TypeSyntax)
  | slice (item : TypeSyntax)
  | array (item : TypeSyntax)
  | bound
  | other

/-- The type of a form with its tokens. -/
def TypeForm.withTokens (tokens : List Token) : TypeForm → TypeSyntax
  | path last arguments simple => .path last arguments simple tokens
  | reference inner => .reference inner
  | parenthesized inner => .parenthesized inner
  | slice item => .slice item
  | array item => .array item
  | bound => .bound tokens
  | other => .other tokens

/-- The form of a type that is a path, unless bounds are added to it or it is a macro call. -/
def pathType (rules : Rules) (forAll sum : Bool) : Parser TypeForm := do
  let (qualified, path) ← typePath rules
  if qualified then return .other
  if path.plain && (← peek fun ts => startsOperator "!" ts && !startsOperator "!=" ts) then
    operator "!"
    discard macroTokens
    return .other
  if sum && (← peekOperator "+") then
    operator "+"
    if ← peek startsBound then discard (bounds rules true false)
    return .other
  if forAll then return .bound
  match path.arguments with
  | .angle arguments => return .path path.last arguments path.single
  | .none => return .path path.last [] path.single
  | .parenthesized => return .path path.last [] false

/-- What stands between the parentheses of a type. -/
inductive Parenthesized where
  /-- One type. -/
  | one (type : TypeSyntax)
  /-- A bound that lets go of a trait. -/
  | relaxed
  /-- Anything else. -/
  | several

/-- The types between parentheses. -/
def parenthesizedTypes (rules : Rules) : Parser Parenthesized := do
  if ← atEnd then return .several
  if ← peek startsLifetime then
    let ((_, hasTrait), tokens) ← capture (bounds rules true false)
    ensure hasTrait
    return .one (.other tokens)
  if ← peekOperator "?" then
    traitBound rules
    return .relaxed
  let type ← rules.type true
  if ← peekOperator "," then
    operator ","
    discard (listToEnd (rules.type true))
    return .several
  return .one type

/-- Bounds after one in parentheses. -/
def moreBounds (rules : Rules) : Parser Unit :=
  iterate (fun _ : Unit => do
    if ← operator? "+" then
      discard (rules.bound false)
      return .inl ()
    else return .inr ()) ()

/-- The form of a type in parentheses. -/
def parenthesizedType (rules : Rules) (sum : Bool) : Parser TypeForm := do
  match ← group .parenthesis (parenthesizedTypes rules) with
  | .several => return .other
  | .relaxed =>
    let more ← peekOperator "+"
    moreBounds rules
    return if more then .other else .bound
  | .one type =>
    if sum && (← peekOperator "+") then
      match type with
      | .path .. | .bound _ =>
        moreBounds rules
        return .other
      | _ => return .parenthesized type
    return .parenthesized type

/-- What stands between the brackets of a slice or an array. -/
def bracketedType (rules : Rules) : Parser TypeForm := do
  let item ← rules.type true
  if ← operator? ";" then
    discard rules.expression
    return .array item
  else return .slice item

/-- The form of a type that begins with a word or a sign of its own, or with a bracket. -/
def markedType (rules : Rules) (sum : Bool) : Parser TypeForm := do
  if ← word? "dyn" then
    discard (operator? "*")
    let (_, hasTrait) ← bounds rules sum false
    ensure hasTrait
    return .other
  if ← peekGroup .bracket then return ← group .bracket (bracketedType rules)
  if ← operator? "*" then
    if !(← word? "const") then word "mut"
    discard (rules.type false)
    return .other
  if ← operator? "&" then
    discard lifetime?
    discard (word? "mut")
    return .reference (← rules.type false)
  if ← operator? "!" then return .other
  if ← word? "impl" then
    let (_, hasTrait) ← bounds rules sum true
    ensure hasTrait
    return .other
  if ← word? "_" then return .other
  ensure (← peek startsLifetime)
  let (_, hasTrait) ← bounds rules true false
  ensure hasTrait
  return .other

/-- The form of a type. -/
def typeForm (rules : Rules) (sum : Bool) : Parser TypeForm := do
  let forAll ← forParameters rules
  if forAll then
    ensure (← peek fun ts => startsName ts || startsOneOf
      ["fn", "unsafe", "extern", "super", "self", "Self", "crate"] ts)
  if ← peekGroup .parenthesis then return ← parenthesizedType rules sum
  if ← peek (startsOneOf ["fn", "unsafe", "extern"]) then
    functionType rules
    return .other
  if ← peek fun ts => startsPath ts || startsWord "Self" ts || startsOperator "<" ts then
    return ← pathType rules forAll sum
  markedType rules sum

/-- A type. -/
def type (rules : Rules) (sum : Bool) : Parser TypeSyntax := do
  let (form, tokens) ← capture (typeForm rules sum)
  return form.withTokens tokens

end TypeSchema.Source.Grammar
