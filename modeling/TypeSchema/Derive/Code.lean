import TypeSchema.Derive.Expansion

/-!
# The code of a derive

The implementation that a derive writes for a type, as the text of its tokens: what describes the
type, its documentation, and the registration of its documentation and of its fields' types.
-/

namespace TypeSchema.Derive

open Source (DefinitionSyntax GenericsSyntax ParameterKind Token)

/-- Texts with a blank between neighbours; empty ones leave nothing. -/
def phrase (texts : List String) : String :=
  String.intercalate " " (texts.filter (!·.isEmpty))

/-- A text in braces. -/
def braced (text : String) : String := phrase ["\x7b", text, "\x7d"]

/-- Texts with commas between them. -/
def commas (texts : List String) : String := String.intercalate " , " texts

/-- The identity of the type, as the code asks for it. -/
def identityCode : String := ":: std :: any :: type_name :: < Self > ()"

/-- A member of the trait as a type has it. -/
def traitMember (type member : String) : String :=
  "< " ++ type ++ " as :: koja :: JsonSchema > :: " ++ member

/-- The element of a field. -/
def fieldCode (field : Field) : String :=
  let descriptor := traitMember (Token.textOf field.typeTokens) "descriptor"
  ". field (:: koja :: Element :: new (" ++ Text.literal field.name.name ++
    " , :: koja :: LazyDescriptor :: new (" ++ descriptor ++ ") ,)" ++
    (if field.optional then " . with_default ()" else "") ++ ")"

/-- The descriptor of a shape. -/
def descriptorCode : Shape → String
  | .object fields =>
    phrase ((":: koja :: TypeDescriptor :: object (" ++ identityCode ++ ")") :: ". eligible ()" ::
      fields.map fieldCode)
  | .enumeration values =>
    braced (phrase
      ["let variants : [& str ; " ++ toString values.length ++ "usize] = [" ++
          commas (values.map Text.literal) ++ "] ;",
        ":: koja :: TypeDescriptor :: enumeration (" ++ identityCode ++ " , variants)",
        ". eligible ()"])
  | .polymorphic =>
    ":: koja :: TypeDescriptor :: polymorphic (" ++ identityCode ++ ") . eligible ()"

/-- The description of a type, which may be missing. -/
def descriptionCode : Option String → String
  | some text =>
    ":: std :: option :: Option :: Some (:: std :: string :: String :: from (" ++
      Text.literal text ++ "))"
  | none => ":: std :: option :: Option :: None"

/-- The documentation of a type. -/
def docsCode (docs : DocMetadata) : String :=
  if docs.isEmpty then ":: std :: option :: Option :: None"
  else
    let fields := docs.fields.entries.map fun (name, text) =>
      "(" ++ Text.literal name ++ " , " ++ Text.literal text ++ ")"
    phrase
      ["let fields : & [(& str , & str)] = & [" ++ commas fields ++ "] ;",
        ":: std :: option :: Option :: Some (:: koja :: DocMetadata :: new (" ++
          descriptionCode docs.description ++ " , fields . iter () . copied ()))"]

/-- The registration of the types of the fields. -/
def childrenCode : Shape → List String
  | .object fields => fields.map fun field =>
      traitMember (Token.textOf field.typeTokens) "register_docs (registry) ;"
  | _ => []

/-- The body of the implementation. -/
def bodyCode (e : Expansion) : String :=
  braced <| phrase
    ["fn descriptor () -> :: koja :: TypeDescriptor", braced (descriptorCode e.shape),
      "fn doc_metadata () -> :: std :: option :: Option < :: koja :: DocMetadata >",
      braced (docsCode e.docs),
      "fn register_docs (registry : & mut :: koja :: DocRegistryBuilder)",
      braced <| phrase <|
        ["let identity = " ++ identityCode ++ " ;",
          "if ! registry . visit (identity)", braced "return ;",
          "if let :: std :: option :: Option :: Some (meta) =",
          traitMember "Self" "doc_metadata ()",
          braced "registry . insert (identity , meta) ;"] ++ childrenCode e.shape]

/-- A list of parameters in angle brackets, lifetimes first; no parameters give no brackets. -/
def angleCode (generics : GenericsSyntax)
    (tokens : Source.ParameterSyntax → List Token) : String :=
  if generics.parameters.isEmpty then ""
  else
    Token.textOf (Token.operator "<" ++
      Source.Grammar.lifetimesFirst (generics.parameters.map fun p =>
        (p.kind == .lifetime, tokens p, p.comma)) ++ Token.operator ">")

/-- The predicates of the implementation: the declared ones, and that every type parameter has a
schema. -/
def whereCode (generics : GenericsSyntax) : String :=
  let added := (generics.parameters.filter (·.kind == .type)).map fun p =>
    p.name.text ++ " : :: koja :: JsonSchema + 'static"
  let declared := generics.predicates
  let separator := match declared.getLast? with
    | none => ""
    | some (.punct ',' _) => ""
    | some _ => if added.isEmpty then "" else ","
  let predicates := phrase [Token.textOf declared, separator, commas added]
  if predicates.isEmpty then "" else "where " ++ predicates

end TypeSchema.Derive

namespace TypeSchema.Expansion

open Source (DefinitionSyntax)

/-- The code of the implementation for a type. -/
def code (e : Expansion) (d : DefinitionSyntax) : String :=
  Derive.phrase
    ["impl", Derive.angleCode d.generics Source.ParameterSyntax.declaration,
      ":: koja :: JsonSchema for", d.name.text,
      Derive.angleCode d.generics fun p => [p.name], Derive.whereCode d.generics,
      Derive.bodyCode e]

end TypeSchema.Expansion
