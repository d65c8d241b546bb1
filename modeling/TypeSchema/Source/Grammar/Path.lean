import TypeSchema.Source.Grammar.Rules

/-!
# Attributes, paths and bounds

Attributes hold tokens that are read later, by whoever the attribute is meant for. Paths may have
generic arguments, and bounds are made of paths.
-/

namespace TypeSchema.Source.Grammar

open TypeSchema.Source.Parser

/-! ## Attributes -/

/-- The value of an attribute: a literal by itself, or an expression. -/
def attributeValue (rules : Rules) : Parser (Option String) := do
  operator "="
  match value.run (← here) with
  | some (_, after) => if after.rest.isEmpty then return ← value
  | none => ensure (!(← peekOperator "#"))
  match ← rules.expression with
  | .value text => return text
  | _ => return none

/-- What stands in the brackets of an attribute. -/
def attributeContent (rules : Rules) : Parser Attribute := do
  let (rooted, path) ←
    if ← peekWord "unsafe" then do
      let id ← anyWord
      pure (false, [id])
    else plainPath
  if ← peek fun ts => startsGroup .parenthesis ts || startsGroup .bracket ts ||
      startsGroup .brace ts then
    let (_, tokens) ← anyGroup
    return { path, rooted, body := .list tokens }
  if ← peekOperator "=" then return { path, rooted, body := .value (← attributeValue rules) }
  return { path, rooted, body := .none }

/-- The attributes before something. -/
def outerAttributes (rules : Rules) : Parser (List Attribute) :=
  whileStarts (startsOperator "#") do
    operator "#"
    group .bracket (attributeContent rules)

/-- The attributes at the start of what they belong to. -/
def innerAttributes (rules : Rules) : Parser (List Attribute) :=
  whileStarts (fun ts => startsOperator "#" ts && startsOperator "!" (ts.drop 1)) do
    operator "#"
    operator "!"
    group .bracket (attributeContent rules)

/-! ## Generic arguments -/

/-- A block with its attributes and label. -/
def labeledBlock (rules : Rules) : Parser Unit := do
  discard (outerAttributes rules)
  if ← lifetime? then operator ":"
  group .brace do
    discard (innerAttributes rules)
    rules.statements

/-- A constant among generic arguments: a literal value or a block. -/
def constArgument (rules : Rules) : Parser Unit := do
  if ← peek startsValue then discard value else labeledBlock rules

/-- What follows a single name among generic arguments: a value for it, or bounds. Is there any? -/
def argumentRest (rules : Rules) : Parser Bool := do
  if ← operator? "=" then
    if ← peek fun ts => startsValue ts || startsGroup .brace ts then constArgument rules
    else discard (rules.type true)
    return true
  if ← operator? ":" then
    chainUntil (fun ts => startsOperator "," ts || startsOperator ">" ts) "+"
      (discard (rules.bound false))
    return true
  return false

/-- A generic argument: is it a lifetime? -/
def genericArgument (rules : Rules) : Parser (Bool × ArgumentSyntax) := do
  if ← peek fun ts => startsLifetime ts && !startsOperator "+" (ts.drop 1) then
    discard lifetime
    return (true, .other)
  if ← peek fun ts => startsValue ts || startsGroup .brace ts then
    let ((), tokens) ← capture (constArgument rules)
    return (false, .constant tokens)
  let type ← rules.type true
  match type with
  | .path _ _ true _ =>
    if ← argumentRest rules then return (false, .other) else return (false, .type type)
  | _ => return (false, .type type)

/-! ## Paths -/

/-- The arguments of a segment of a path. -/
inductive PathArguments where
  /-- None. -/
  | none
  /-- In angle brackets. -/
  | angle (arguments : List ArgumentSyntax)
  /-- In parentheses. -/
  | parenthesized

/-- A path: its last segment, and whether it is simple: of one segment, without arguments in
parentheses. -/
structure Path where
  /-- The name of the last segment. -/
  last : Identifier
  /-- The arguments of the last segment. -/
  arguments : PathArguments
  /-- Has the path one segment only, and no double colon before it? -/
  single : Bool
  /-- Has no segment arguments? -/
  plain : Bool

/-- Has the last segment no arguments, so that some in parentheses may follow? -/
def Path.acceptsCall (path : Path) : Bool :=
  match path.arguments with
  | .none => true
  | .angle arguments => arguments.isEmpty
  | .parenthesized => false

/-- A segment of a path. In an expression, arguments stand only after a double colon. -/
def pathSegment (rules : Rules) (inExpression : Bool) :
    Parser (Identifier × PathArguments) := do
  if ← peek (startsOneOf ["super", "self", "crate", "try"]) then return (← anyWord, .none)
  let id ← if ← peekWord "Self" then anyWord else name
  let bare ← peek fun ts =>
    !inExpression && startsOperator "<" ts && !startsOperator "<=" ts
  let turbofish ← peek fun ts => startsOperator "::" ts && startsOperator "<" (ts.drop 2)
  if bare || turbofish then
    discard (operator? "::")
    return (id, .angle (← angleList (genericArgument rules)))
  return (id, .none)

/-- The segments of a path after the first ones. -/
def pathRest (rules : Rules) (inExpression : Bool) (path : Path) :
    Parser Path :=
  iterate (fun path : Path => do
    if ← peek fun ts => startsOperator "::" ts && !startsGroup .parenthesis (ts.drop 2) then
      operator "::"
      let (last, arguments) ← pathSegment rules inExpression
      let plain := path.plain && arguments matches .none
      return .inl { last, arguments, single := false, plain }
    else return .inr path) path

/-- A path. -/
def path (rules : Rules) (inExpression : Bool) : Parser Path := do
  let rooted ← operator? "::"
  let (last, arguments) ← pathSegment rules inExpression
  pathRest rules inExpression
    { last, arguments, single := !rooted, plain := arguments matches .none }

/-- A path that may start in a type: `<T as Trait>::Name`. Does it? -/
def qualifiedPath (rules : Rules) (inExpression : Bool) :
    Parser (Bool × Path) := do
  if ← peekOperator "<" then
    operator "<"
    discard (rules.type true)
    if ← word? "as" then discard (path rules false)
    operator ">"
    operator "::"
    let start : Path := { last := default, arguments := .none, single := false, plain := true }
    let path ← iterate (fun path : Path => do
      let (last, arguments) ← pathSegment rules inExpression
      let plain := path.plain && arguments matches .none
      let path := { last, arguments, single := false, plain : Path }
      if ← operator? "::" then return .inl path else return .inr path) start
    return (true, path)
  return (false, ← path rules inExpression)

/-- Do arguments in parentheses stand here, perhaps after a double colon? -/
def startsCallArguments (tokens : List Token) : Bool :=
  startsGroup .parenthesis tokens ||
    startsOperator "::" tokens && startsGroup .parenthesis (tokens.drop 2)

/-- The type after an arrow, if there is an arrow: the type. -/
def returnType (rules : Rules) (sum : Bool) : Parser (Option TypeSyntax) := do
  if ← operator? "->" then return some (← rules.type sum) else return none

/-- Arguments in parentheses, with the type they give: that type. The double colon before them is
not written again. -/
def callArguments (rules : Rules) : Parser (Option TypeSyntax) := do
  discard (aside (operator? "::"))
  discard (group .parenthesis (listToEnd (rules.type true)))
  returnType rules false

/-! ## Bounds and generic parameters -/

/-- The parameters that a bound or a type is said to hold for: are there any? -/
def forParameters (rules : Rules) : Parser Bool := do
  if ← word? "for" then
    discard (angleList do
      let parameter ← rules.parameter
      return (parameter.kind == .lifetime, ()))
    return true
  else return false

/-- A trait as a bound. -/
def traitBound (rules : Rules) : Parser Unit := do
  discard (forParameters rules)
  if ← peekGroup .bracket then group .bracket (word "const")
  else if ← operator? "~" then word "const"
  else discard (word? "const")
  if ← operator? "?" then discard (forParameters rules)
  let trait ← path rules false
  if trait.acceptsCall && (← peek startsCallArguments) then discard (callArguments rules)

/-- What a type captures, as a bound: `use<'a, T>`. -/
def capturedParameters : Parser Unit := do
  word "use"
  operator "<"
  discard (listUntil (startsOperator ">") do
    if ← lifetime? then return ()
    discard (if ← peekWord "Self" then anyWord else name))
  operator ">"

/-- A bound: a lifetime, what is captured, or a trait. Is it a trait? -/
def bound (rules : Rules) (capturing : Bool) : Parser Bool := do
  if ← lifetime? then return false
  if ← peekWord "use" then
    ensure capturing
    capturedParameters
    return false
  if ← peekGroup .parenthesis then group .parenthesis (traitBound rules)
  else traitBound rules
  return true

/-- May a bound stand here, after a plus? -/
def startsBound (tokens : List Token) : Bool :=
  startsAnyWord tokens || startsOperator "::" tokens || startsOperator "?" tokens ||
    startsLifetime tokens || startsGroup .parenthesis tokens || startsGroup .bracket tokens ||
    startsOperator "~" tokens

/-- Bounds with a plus between them and perhaps at the end: how many, and is one of them a trait?
Without leave to sum, there is one. -/
def bounds (rules : Rules) (sum capturing : Bool) : Parser (Nat × Bool) :=
  iterate (fun (count, hasTrait) => do
    let isTrait ← rules.bound capturing
    let found := (count + 1, hasTrait || isTrait)
    if !sum then return .inr found
    if ← operator? "+" then
      if ← peek startsBound then return .inl found else return .inr found
    else return .inr found) (0, false)

/-- Bounds with a plus between them, up to where a test holds. -/
def boundsUntil (rules : Rules) (stop : List Token → Bool) : Parser Unit :=
  chainUntil stop "+" (discard (rules.bound false))

/-- The name and the bounds of a lifetime that is declared. No colon is written if there are no
bounds. -/
def lifetimeParameter : Parser Token := do
  let name ← lifetime
  if ← peekOperator ":" then
    let ((), tokens) ← aside do
      operator ":"
      chainUntil (fun ts => startsOperator "," ts || startsOperator ">" ts) "+" (discard lifetime)
    if 1 < tokens.length then write tokens
  return name

/-- The bounds of a type that is declared. -/
def typeParameterBounds (rules : Rules) : Parser Unit := do
  if ← peekOperator ":" then
    let ((), tokens) ← aside do
      operator ":"
      boundsUntil rules fun ts =>
        startsOperator "," ts || startsOperator ">" ts || startsOperator "=" ts
    if 1 < tokens.length then write tokens

/-- A generic parameter. -/
def parameter (rules : Rules) : Parser ParameterSyntax := do
  let (_, before) ← capture (outerAttributes rules)
  if ← peek startsLifetime then
    let (name, tokens) ← capture lifetimeParameter
    return { kind := .lifetime, name, declaration := before ++ tokens, comma := false }
  if ← peekWord "const" then
    let (id, tokens) ← capture do
      word "const"
      let id ← name
      operator ":"
      discard (rules.type true)
      return id
    if ← operator? "=" then constArgument rules
    return { kind := .const, name := id.token, declaration := before ++ tokens, comma := false }
  let (id, tokens) ← capture do
    let id ← nameOrBlank
    typeParameterBounds rules
    return id
  if ← operator? "=" then discard (rules.type true)
  return { kind := .type, name := id.token, declaration := before ++ tokens, comma := false }

/-- Generic parameters in angle brackets, if there are any. -/
def parameters (rules : Rules) : Parser (List ParameterSyntax) := do
  if !(← peekOperator "<") then return []
  operator "<"
  let parameters ← iterate (fun read : List ParameterSyntax => do
    if ← peekOperator ">" then return .inr read.reverse
    let parameter ← rules.parameter
    if ← peekOperator ">" then return .inr (parameter :: read).reverse
    operator ","
    return .inl ({ parameter with comma := true } :: read)) []
  operator ">"
  return parameters

/-- Where the bounds of a predicate end, if they do not end with it. -/
def endsPredicate (tokens : List Token) : Bool :=
  tokens.isEmpty || startsGroup .brace tokens || startsOperator "," tokens ||
    startsOperator ";" tokens || startsOperator ":" tokens && !startsOperator "::" tokens ||
    startsOperator "=" tokens

/-- A predicate of a where clause. -/
def predicate (rules : Rules) : Parser Unit := do
  if ← peek fun ts => startsLifetime ts && startsOperator ":" (ts.drop 1) then
    discard lifetime
    operator ":"
    chainUntil endsPredicate "+" (discard lifetime)
  else
    discard (forParameters rules)
    discard (rules.type true)
    operator ":"
    boundsUntil rules endsPredicate

/-- The predicates of a where clause, if there is one. -/
def whereClause (rules : Rules) : Parser (List Token) := do
  if ← word? "where" then
    let ((), tokens) ← capture (chainUntil endsPredicate "," (predicate rules))
    return tokens
  else return []

end TypeSchema.Source.Grammar
