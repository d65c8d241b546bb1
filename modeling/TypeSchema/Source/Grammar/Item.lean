import TypeSchema.Source.Grammar.Expression
import TypeSchema.Source.Grammar.Type

/-!
# The grammar of statements and items

Items make up files and modules, and they may stand among the statements of a block. Of an item only
the definitions of types in it are kept, and of a function not even these.
-/

namespace TypeSchema.Source.Grammar

open TypeSchema.Source.Parser

/-! ## Parts of items -/

/-- Who may use an item: is anything said of it? -/
def visibility : Parser Bool := do
  if !(← word? "pub") then return false
  match (← here).rest with
  | .group .parenthesis inner :: _ =>
    if startsWord "in" inner then
      group .parenthesis do
        word "in"
        discard plainPath
    else if startsOneOf ["crate", "self", "super"] inner && inner.length == 1 then
      group .parenthesis (discard anyWord)
  | _ => pure ()
  return true

/-- The tokens after the visibility that may stand first. -/
def afterVisibility (tokens : List Token) : List Token :=
  match visibility.run { rest := tokens } with
  | some (_, after) => after.rest
  | none => tokens

/-- Does the head of a function stand here? -/
def startsFunction (safe : Bool) (tokens : List Token) : Bool :=
  let past (word : String) (tokens : List Token) : List Token :=
    if startsWord word tokens then tokens.drop 1 else tokens
  let tokens := past "async" (past "const" tokens)
  let tokens := if safe && startsWord "safe" tokens then tokens.drop 1 else past "unsafe" tokens
  let tokens :=
    if startsWord "extern" tokens then
      let rest := tokens.drop 1
      if startsString rest then rest.drop 1 else rest
    else tokens
  startsWord "fn" tokens

/-- The receiver of a method. -/
def receiver (rules : Rules) : Parser Unit := do
  let reference ← operator? "&"
  if reference then discard lifetime?
  discard (word? "mut")
  word "self"
  if !reference then
    if ← operator? ":" then discard (rules.type true)

/-- An argument of a function that is no receiver. Does it stand for more arguments? -/
def functionArgument (rules : Rules) : Parser Bool := do
  if ← operator? "..." then return true
  if ← peek fun ts => startsName ts && startsOperator "<" (ts.drop 1) then
    discard (rules.type true)
    return false
  discard rules.pattern
  operator ":"
  if ← operator? "..." then return true
  discard (rules.type true)
  return false

/-- The arguments of a function. A receiver may only stand first. -/
def functionArguments (rules : Rules) : Parser Unit :=
  iterate (fun first : Bool => do
    if ← atEnd then return .inr ()
    discard (outerAttributes rules)
    let isReceiver ← (do receiver rules; return true) <|> return false
    if isReceiver then ensure first
    else if ← functionArgument rules then
      if !(← atEnd) then operator ","
      return .inr ()
    if ← atEnd then return .inr ()
    operator ","
    return .inl false) true

/-- The head of a function. -/
def signature (rules : Rules) (safe : Bool) : Parser Unit := do
  discard (word? "const")
  discard (word? "async")
  let marked ← if safe then word? "safe" else pure false
  if !marked then discard (word? "unsafe")
  discard callConvention
  word "fn"
  discard name
  discard (parameters rules)
  group .parenthesis (functionArguments rules)
  discard (returnType rules true)
  discard (whereClause rules)

/-- A function with its body, or a semicolon where there may be none. -/
def function (rules : Rules) (safe : Bool) : Parser Unit := do
  signature rules safe
  if ← peekGroup .brace then body rules else operator ";"

/-- A value after a sign of equality, if that sign stands here. -/
def initialValue (rules : Rules) : Parser Unit := do
  if ← operator? "=" then discard rules.expression

/-- A constant, after the word for it. -/
def constant (rules : Rules) : Parser Unit := do
  discard nameOrBlank
  discard (parameters rules)
  operator ":"
  discard (rules.type true)
  initialValue rules
  discard (whereClause rules)
  operator ";"

/-- A static variable, after the word for it. -/
def staticVariable (rules : Rules) : Parser Unit := do
  discard (word? "mut")
  discard name
  if ← operator? "=" then discard rules.expression
  else
    operator ":"
    discard (rules.type true)
    initialValue rules
  operator ";"

/-- Where the bounds of a type alias end. -/
def endsAliasBounds (tokens : List Token) : Bool :=
  startsWord "where" tokens || startsOperator "=" tokens || startsOperator ";" tokens

/-- A type alias, after the word for it. A where clause may stand before the definition, after it,
or on either side. -/
def typeAlias (rules : Rules) (before after : Bool) : Parser Unit := do
  discard name
  discard (parameters rules)
  if ← operator? ":" then
    discard (whileStarts (fun ts => !endsAliasBounds ts) do
      discard (rules.bound false)
      if !(← peek endsAliasBounds) then operator "+")
  let predicates ← if before then whereClause rules else pure []
  if ← operator? "=" then discard (rules.type true)
  if after && predicates.isEmpty then discard (whereClause rules)
  operator ";"

/-- A macro call as an item. -/
def macroItem (rules : Rules) (named : Bool) : Parser Unit := do
  discard (outerAttributes rules)
  discard plainPath
  operator "!"
  if named then
    if ← peek fun ts => startsName ts || startsWord "try" ts then discard anyWord
  if !(← macroTokens) then operator ";"

/-! ## Definitions of types -/

/-- A field with a name. -/
def namedField (rules : Rules) : Parser FieldSyntax := do
  let attributes ← outerAttributes rules
  discard visibility
  let name ← nameOrBlank
  operator ":"
  let (type, typeTokens) ← capture (rules.type true)
  return { attributes, name, type, typeTokens }

/-- Fields in braces. -/
def namedFields (rules : Rules) : Parser (List FieldSyntax) :=
  group .brace (listToEnd (namedField rules))

/-- Fields in parentheses. -/
def unnamedFields (rules : Rules) : Parser Unit :=
  discard <| group .parenthesis <| listToEnd do
    discard (outerAttributes rules)
    discard visibility
    discard (rules.type true)

/-- The fields of a struct with the predicates on its parameters. -/
def structBody (rules : Rules) : Parser (FieldsSyntax × List Token) := do
  if ← peekGroup .parenthesis then
    unnamedFields rules
    let predicates ← whereClause rules
    operator ";"
    return (.unnamed, predicates)
  let predicates ← whereClause rules
  if ← peekGroup .brace then return (.named (← namedFields rules), predicates)
  operator ";"
  return (.unit, predicates)

/-- A variant of an enum. -/
def variant (rules : Rules) : Parser VariantSyntax := do
  let attributes ← outerAttributes rules
  discard visibility
  let name ← name
  let isUnit ←
    if ← peekGroup .brace then do
      discard (namedFields rules)
      pure false
    else if ← peekGroup .parenthesis then do
      unnamedFields rules
      pure false
    else pure true
  initialValue rules
  return { attributes, name, isUnit }

/-- The definition of a type, after its attributes and visibility. -/
def typeDefinition (rules : Rules) (attributes : List Attribute) : Parser DefinitionSyntax := do
  if ← word? "struct" then
    let name ← name
    let parameters ← parameters rules
    let (fields, predicates) ← structBody rules
    return { attributes, name, generics := { parameters, predicates }, body := .struct fields }
  if ← word? "enum" then
    let name ← name
    let parameters ← parameters rules
    let predicates ← whereClause rules
    let variants ← group .brace (listToEnd (variant rules))
    return { attributes, name, generics := { parameters, predicates },
             body := .enumeration variants }
  word "union"
  let name ← name
  let parameters ← parameters rules
  let predicates ← whereClause rules
  discard (namedFields rules)
  return { attributes, name, generics := { parameters, predicates }, body := .union }

/-! ## Other items -/

/-- The tree of a use declaration: a path, everything, or several trees. Only where no path has
begun may a double colon begin a tree in braces. -/
def useTree (rules : Rules) (fresh : Bool) : Parser Unit := do
  if ← operator? "*" then return ()
  if ← peekGroup .brace then
    discard <| group .brace <| listToEnd do
      let rooted ← if fresh then operator? "::" else pure false
      rules.useTree (fresh && !rooted)
    return ()
  ensure (← peek fun ts => startsName ts || startsOneOf ["self", "super", "crate", "try"] ts)
  discard anyWord
  if ← operator? "::" then rules.useTree false
  else if ← word? "as" then discard nameOrBlank

/-- A crate from elsewhere, after the word for it. -/
def externCrate : Parser Unit := do
  word "crate"
  discard (if ← peekWord "self" then anyWord else name)
  if ← word? "as" then discard nameOrBlank
  operator ";"

/-- Does a static variable stand here that a foreign block declares? -/
def startsForeignStatic (tokens : List Token) : Bool :=
  startsWord "static" tokens ||
    startsOneOf ["unsafe", "safe"] tokens && startsWord "static" (tokens.drop 1)

/-- An item of a foreign block. -/
def foreignItem (rules : Rules) : Parser Unit := do
  discard (outerAttributes rules)
  let tokens := afterVisibility (← here).rest
  if startsFunction true tokens then
    discard visibility
    function rules true
  else if startsForeignStatic tokens then
    discard visibility
    if !(← word? "unsafe") then discard (word? "safe")
    word "static"
    discard (word? "mut")
    discard name
    operator ":"
    discard (rules.type true)
    initialValue rules
    operator ";"
  else if startsWord "type" tokens then
    discard visibility
    word "type"
    typeAlias rules true true
  else macroItem rules false

/-- A block of foreign items, after the convention. -/
def foreignBlock (rules : Rules) : Parser Unit :=
  group .brace do
    discard (innerAttributes rules)
    discard (toEnd (foreignItem rules))

/-- An item of a trait. -/
def traitItem (rules : Rules) : Parser Unit := do
  discard (outerAttributes rules)
  let visible ← visibility
  let defaulted ← word? "default"
  let tokens := (← here).rest
  if startsFunction false tokens then function rules false
  else if ← word? "const" then constant rules
  else if ← word? "type" then typeAlias rules false true
  else
    ensure (!visible && !defaulted)
    macroItem rules false

/-- Where the bounds of a trait end. -/
def endsTraitBounds (tokens : List Token) : Bool :=
  startsWord "where" tokens || startsGroup .brace tokens

/-- A trait or an alias of bounds, after the word for it. -/
def trait (rules : Rules) (aliasAllowed : Bool) : Parser Unit := do
  discard name
  discard (parameters rules)
  if aliasAllowed && (← peekOperator "=") then
    operator "="
    let stops (ts : List Token) : Bool := startsWord "where" ts || startsOperator ";" ts
    discard (whileStarts (fun ts => !stops ts) do
      discard (rules.bound false)
      if !(← peek stops) then operator "+")
    discard (whereClause rules)
    operator ";"
  else
    if ← operator? ":" then
      discard (whileStarts (fun ts => !endsTraitBounds ts) do
        discard (rules.bound false)
        if !(← peek endsTraitBounds) then operator "+")
    discard (whereClause rules)
    group .brace do
      discard (innerAttributes rules)
      discard (toEnd (traitItem rules))

/-- An item of an implementation. -/
def implementationItem (rules : Rules) : Parser Unit := do
  discard (outerAttributes rules)
  let visible := startsWord "pub" (← here).rest
  let tokens := afterVisibility (← here).rest
  let defaulted := startsWord "default" tokens && !startsOperator "!" (tokens.drop 1)
  if visible || defaulted then
    discard visibility
    if defaulted then word "default"
  let tokens := (← here).rest
  if startsFunction false tokens then function rules false
  else if ← word? "const" then constant rules
  else if ← word? "type" then typeAlias rules false true
  else
    ensure (!visible && !defaulted)
    macroItem rules false

/-- An implementation. -/
def implementation (rules : Rules) : Parser Unit := do
  discard (word? "default")
  discard (word? "unsafe")
  word "impl"
  if ← peek startsParameters then discard (parameters rules)
  if ← peek fun ts => startsWord "const" ts ||
      startsOperator "?" ts && startsWord "const" (ts.drop 1) then
    discard (operator? "?")
    word "const"
  let negative ← peek fun ts => startsOperator "!" ts && !startsGroup .brace (ts.drop 1)
  if negative then operator "!"
  discard (rules.type true)
  if ← word? "for" then discard (rules.type true) else ensure (!negative)
  discard (whereClause rules)
  group .brace do
    discard (innerAttributes rules)
    discard (toEnd (implementationItem rules))

/-- A macro that is defined with the word `macro`. -/
def macroDefinition : Parser Unit := do
  word "macro"
  discard name
  if ← peekGroup .parenthesis then discard anyGroup
  group .brace (discard everything)

/-- An item that begins with `extern`: a crate from elsewhere or a block of foreign items. The
latter has no visibility. -/
def externItem (rules : Rules) (visible : Bool) : Parser Unit := do
  word "extern"
  if ← peekWord "crate" then externCrate
  else
    ensure (!visible)
    if ← peek startsString then discard value
    foreignBlock rules

/-- An item that begins with `unsafe` and is no function. -/
def unsafeItem (rules : Rules) (visible : Bool) : Parser (Option Item) := do
  if ← peek fun ts => startsWord "impl" (ts.drop 1) then
    implementation rules
    return some .other
  if ← peek fun ts => startsWord "mod" (ts.drop 1) then
    word "unsafe"
    return none
  word "unsafe"
  if ← peekWord "extern" then
    ensure (!visible)
    discard callConvention
    foreignBlock rules
  else
    discard (word? "auto")
    word "trait"
    trait rules false
  return some .other

/-- A module, after the words before it. -/
def module (rules : Rules) : Parser Item := do
  word "mod"
  discard (if ← peekWord "try" then anyWord else name)
  if ← operator? ";" then return .other
  group .brace do
    discard (innerAttributes rules)
    return .module (← toEnd rules.item)

/-- Does a union stand here? The word for it is no keyword. -/
def startsUnion (tokens : List Token) : Bool :=
  startsWord "union" tokens && startsName (tokens.drop 1)

/-- Does a trait stand here whose implementations come by themselves? -/
def startsAutoTrait (tokens : List Token) : Bool :=
  startsWord "auto" tokens && startsWord "trait" (tokens.drop 1)

/-- An item after its attributes. -/
def itemAfter (rules : Rules) (attributes : List Attribute) : Parser Item := do
  let start := (← here).rest
  let tokens := afterVisibility start
  let visible := startsWord "pub" start
  if startsWord "macro" tokens then
    discard visibility
    macroDefinition
    return .other
  if startsOneOf ["struct", "enum"] tokens || startsUnion tokens then
    discard visibility
    return .definition (← typeDefinition rules attributes)
  if startsFunction false tokens then
    discard visibility
    function rules false
    return .other
  if startsWord "impl" tokens ||
      startsWord "default" tokens && !startsOperator "!" (tokens.drop 1) then
    discard visibility
    implementation rules
    return .other
  if startsWord "unsafe" tokens then
    discard visibility
    match ← unsafeItem rules visible with
    | some item => return item
    | none => return ← module rules
  if startsWord "mod" tokens then
    discard visibility
    return ← module rules
  if startsOneOf ["extern", "use", "static", "const", "type", "trait"] tokens ||
      startsAutoTrait tokens then
    discard visibility
    if ← peekWord "extern" then externItem rules visible
    else if ← word? "use" then
      let rooted ← operator? "::"
      useTree rules (!rooted)
      operator ";"
    else if ← word? "static" then staticVariable rules
    else if ← word? "const" then constant rules
    else if ← word? "type" then typeAlias rules true false
    else
      let auto ← word? "auto"
      word "trait"
      trait rules (!auto)
    return .other
  ensure (!visible)
  macroItem rules true
  return .other

/-- An item. -/
def item (rules : Rules) : Parser Item := do
  let attributes ← outerAttributes rules
  itemAfter rules attributes

/-! ## Statements -/

/-- A variable that is declared, after the word for it. -/
def declaration (rules : Rules) : Parser Unit := do
  discard rules.pattern
  if ← operator? ":" then discard (rules.type true)
  if ← operator? "=" then
    discard rules.expression
    if !(← endsWithBrace) && (← peekWord "else") then
      word "else"
      plainBlock rules
  operator ";"

/-- The macro call at the start of a statement, if it is an item or stands by itself: the path and
what follows it. -/
def macroStart (tokens : List Token) : Option (List Token) :=
  match plainPath.run { rest := tokens } with
  | some (_, after) => if startsOperator "!" after.rest then some (after.rest.drop 1) else none
  | none => none

/-- Does a macro call with a name stand here, as it defines a macro? -/
def startsMacroItem (tokens : List Token) : Bool :=
  match macroStart tokens with
  | some after => startsName after || startsWord "try" after
  | none => false

/-- Does a macro call in braces stand here that is a whole statement? -/
def startsMacroStatement (tokens : List Token) : Bool :=
  match macroStart tokens with
  | some after =>
    startsGroup .brace after && !startsPoint (after.drop 1) && !startsOperator "?" (after.drop 1)
  | none => false

/-- Does an item stand here, among statements? -/
def startsItem (tokens : List Token) : Bool :=
  let second := tokens.drop 1
  let third := tokens.drop 2
  startsOneOf ["pub", "extern", "use", "fn", "mod", "type", "struct", "enum", "trait", "impl",
      "macro"] tokens ||
    startsWord "crate" tokens && !startsOperator "::" second ||
    startsWord "static" tokens && (startsWord "mut" second || startsName second) ||
    startsWord "const" tokens &&
      !(startsGroup .brace second || startsOneOf ["static", "move"] second ||
        startsOperator "|" second ||
        startsWord "async" second && !startsOneOf ["unsafe", "extern", "fn"] third) ||
    startsWord "unsafe" tokens && !startsGroup .brace second ||
    startsWord "async" tokens && startsOneOf ["unsafe", "extern", "fn"] second ||
    startsUnion tokens || startsAutoTrait tokens ||
    startsWord "default" tokens && startsOneOf ["unsafe", "impl"] second ||
    startsMacroItem tokens

/-- A statement: does a semicolon have to come before the next one? -/
def statement (rules : Rules) : Parser Bool := do
  let attributes ← outerAttributes rules
  let tokens := (← here).rest
  if startsMacroStatement tokens then
    discard plainPath
    operator "!"
    discard macroTokens
    discard (operator? ";")
    return false
  if ← word? "let" then
    declaration rules
    return false
  if startsItem tokens then
    discard (itemAfter rules attributes)
    return false
  let form ← rules.leading
  if ← operator? ";" then return false
  return form != .block && form != .braceMacro

/-- The statements of a block. -/
def statements (rules : Rules) : Parser Unit :=
  iterate (fun _ : Unit => do
    discard (whileStarts (startsOperator ";") (operator ";"))
    if ← atEnd then return .inr ()
    let unfinished ← statement rules
    if ← atEnd then return .inr ()
    ensure (!unfinished)
    return .inl ()) ()

end TypeSchema.Source.Grammar
