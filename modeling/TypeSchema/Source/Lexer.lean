import TypeSchema.Source.Token
import TypeSchema.Text.Blank
import TypeSchema.Text.Identifier
import TypeSchema.Text.Quoted

/-!
# Reading tokens

The tokens of a Rust source text. A scan takes the characters that are left and gives those after
one lexeme, or nothing if no such lexeme stands there. Blanks and comments separate tokens, but a
doc comment becomes the tokens of a `doc` attribute.
-/

namespace TypeSchema.Source.Lexer

open TypeSchema.Text (isIdentifierStart isIdentifierContinue)

/-- Does the text start with the given characters? -/
def startsWith (start : String) (text : List Char) : Bool := start.toList.isPrefixOf text

/-- The characters of `text` up to where `rest` begins. -/
def upTo (text rest : List Char) : String :=
  String.ofList (text.take (text.length - rest.length))

/-! ## Blanks and comments -/

/-- The characters between tokens: blanks, and the two marks of writing direction. -/
def isSpace (c : Char) : Bool := Text.isBlank c || c == '\u200e' || c == '\u200f'

/-- Splits a text at the end of its first line. The characters that end the line stay with the
second part, apart from a carriage return before the line feed. -/
def splitLine : List Char → List Char × List Char
  | [] => ([], [])
  | '\n' :: rest => ([], '\n' :: rest)
  | '\r' :: '\n' :: rest => ([], '\n' :: rest)
  | c :: rest =>
    let (line, after) := splitLine rest
    (c :: line, after)

/-- The text after the end of a block comment that is open `depth` times; comments nest. -/
def blockEnd : (depth : Nat) → List Char → Option (List Char)
  | depth, '/' :: '*' :: rest => blockEnd (depth + 1) rest
  | depth, '*' :: '/' :: rest => if depth ≤ 1 then some rest else blockEnd (depth - 1) rest
  | depth, _ :: rest => blockEnd depth rest
  | _, [] => none

/-- Does a line comment stand here that is no doc comment? -/
def isLineComment (text : List Char) : Bool :=
  startsWith "//" text && (!startsWith "///" text || startsWith "////" text) &&
    !startsWith "//!" text

/-- Does a block comment stand here that is no doc comment? -/
def isBlockComment (text : List Char) : Bool :=
  startsWith "/**/" text ||
    startsWith "/*" text && (!startsWith "/**" text || startsWith "/***" text) &&
      !startsWith "/*!" text

/-- The text after blanks and comments. A block comment that does not end is left. -/
def skipSpaceFrom : (fuel : Nat) → List Char → List Char
  | 0, text => text
  | _ + 1, [] => []
  | fuel + 1, c :: rest =>
    if isLineComment (c :: rest) then skipSpaceFrom fuel (splitLine (c :: rest)).2
    else if isBlockComment (c :: rest) then
      match blockEnd 1 (rest.drop 1) with
      | some rest => skipSpaceFrom fuel rest
      | none => c :: rest
    else if isSpace c then skipSpaceFrom fuel rest
    else c :: rest

/-- The text after blanks and comments. -/
def skipSpace (text : List Char) : List Char := skipSpaceFrom (text.length + 1) text

/-- The content of a doc comment, whether it belongs to what is around it, and the text after it. -/
def docComment? (text : List Char) : Option (List Char × Bool × List Char) :=
  if startsWith "//!" text then
    let (line, rest) := splitLine (text.drop 3)
    some (line, true, rest)
  else if startsWith "///" text && !startsWith "////" text then
    let (line, rest) := splitLine (text.drop 3)
    some (line, false, rest)
  else if startsWith "/*!" text || startsWith "/**" text && !startsWith "/***" text then do
    let rest ← blockEnd 1 (text.drop 2)
    some ((text.take (text.length - rest.length - 2)).drop 3, startsWith "/*!" text, rest)
  else none

/-- Is there a carriage return that is not followed by a line feed? -/
def hasBareReturn : List Char → Bool
  | [] => false
  | '\r' :: '\n' :: rest => hasBareReturn rest
  | '\r' :: _ => true
  | _ :: rest => hasBareReturn rest

/-- The tokens that a doc comment stands for. -/
def docTokens (content : List Char) (inner : Bool) : List Token :=
  [.punct '#' false] ++ (if inner then [.punct '!' false] else []) ++
    [.group .bracket
      [.plain "doc", .punct '=' false, .literal (Text.literal (String.ofList content))]]

/-! ## Words -/

/-- The text after a word. -/
def word? : List Char → Option (List Char)
  | [] => none
  | c :: rest =>
    if c == '_' || isIdentifierStart c then some (rest.dropWhile isIdentifierContinue) else none

/-- The text after the suffix of a literal, if it has one. -/
def skipSuffix (text : List Char) : List Char := (word? text).getD text

/-- Words that may not be raw. -/
def neverRaw : List String := ["_", "super", "self", "Self", "crate"]

/-- A word, perhaps raw, and the text after it. -/
def identifier? (text : List Char) : Option (String × Bool × List Char) :=
  let raw := startsWith "r#" text
  let start := if raw then text.drop 2 else text
  match word? start with
  | none => none
  | some rest =>
    let name := upTo start rest
    if raw && name ∈ neverRaw then none else some (name, raw, rest)

/-- The starts of literals that would otherwise be read as words. -/
def literalStarts : List String :=
  ["r\"", "r#\"", "r##", "b\"", "b'", "br\"", "br#", "c\"", "cr\"", "cr#"]

/-! ## Literals between quotes -/

/-- Is the character a hexadecimal digit? -/
def isHexDigit (c : Char) : Bool :=
  c.isDigit || ('a' ≤ c && c ≤ 'f') || ('A' ≤ c && c ≤ 'F')

/-- The value of a hexadecimal digit. -/
def hexValue (c : Char) : Nat :=
  if c.isDigit then c.toNat - '0'.toNat
  else if 'a' ≤ c then c.toNat - 'a'.toNat + 10
  else c.toNat - 'A'.toNat + 10

/-- Is the number the code point of a character? -/
def isScalar (n : Nat) : Bool := n < 0xd800 || (0xe000 ≤ n && n < 0x110000)

/-- The code point between braces, of one to six digits that may be parted by underscores, and the
text after it. -/
def codePointFrom : (digits value : Nat) → List Char → Option (Nat × List Char)
  | _, _, [] => none
  | digits, value, c :: rest =>
    if isHexDigit c then
      if digits == 6 then none else codePointFrom (digits + 1) (value * 16 + hexValue c) rest
    else if c == '_' && 0 < digits then codePointFrom digits value rest
    else if c == '\x7d' && 0 < digits && isScalar value then some (value, rest)
    else none

/-- The code point after a backslash and `u`, and the text after it. -/
def codePoint? : List Char → Option (Nat × List Char)
  | c :: rest => if c == '\x7b' then codePointFrom 0 0 rest else none
  | [] => none

/-- What may stand between the quotes of a literal. -/
structure Content where
  /-- The characters that stand for themselves. -/
  plain : Char → Bool
  /-- The text after an escape whose backslash has been read. -/
  escape : List Char → Option (List Char)

/-- The letters of escapes of one character. -/
def isSimpleEscape (c : Char) : Bool :=
  c == 'n' || c == 'r' || c == 't' || c == '\\' || c == '\'' || c == '"'

/-- Text: any characters, code points by two digits up to 7f and by number. -/
def textContent : Content where
  plain _ := true
  escape
    | 'x' :: a :: b :: rest => if '0' ≤ a && a ≤ '7' && isHexDigit b then some rest else none
    | 'u' :: rest => (codePoint? rest).map Prod.snd
    | c :: rest => if c == '0' || isSimpleEscape c then some rest else none
    | [] => none

/-- Bytes: ASCII characters, and any byte by two digits. -/
def byteContent : Content where
  plain c := c.toNat < 128
  escape
    | 'x' :: a :: b :: rest => if isHexDigit a && isHexDigit b then some rest else none
    | c :: rest => if c == '0' || isSimpleEscape c then some rest else none
    | [] => none

/-- Text that ends with a null character and holds no other. -/
def terminatedContent : Content where
  plain c := c.toNat != 0
  escape
    | 'x' :: a :: b :: rest =>
      if isHexDigit a && isHexDigit b && !(a == '0' && b == '0') then some rest else none
    | 'u' :: rest => do
      let (n, rest) ← codePoint? rest
      if n == 0 then none else some rest
    | c :: rest => if isSimpleEscape c then some rest else none
    | [] => none

/-- The text after the blanks of a line that is continued: after a backslash at its end, whose last
character has been read. -/
def continuation : (afterReturn : Bool) → List Char → Option (List Char)
  | true, '\n' :: rest => continuation false rest
  | true, _ => none
  | false, [] => none
  | false, c :: rest =>
    if c == ' ' || c == '\t' || c == '\n' then continuation false rest
    else if c == '\r' then continuation true rest
    else some (c :: rest)

/-- The text after the closing quote and the suffix of a literal. -/
def quotedFrom (content : Content) : (fuel : Nat) → List Char → Option (List Char)
  | 0, _ => none
  | _ + 1, [] => none
  | _ + 1, '"' :: rest => some (skipSuffix rest)
  | fuel + 1, '\\' :: '\n' :: rest => do quotedFrom content fuel (← continuation false rest)
  | fuel + 1, '\\' :: '\r' :: rest => do quotedFrom content fuel (← continuation true rest)
  | fuel + 1, '\\' :: rest => do quotedFrom content fuel (← content.escape rest)
  | fuel + 1, '\r' :: '\n' :: rest => quotedFrom content fuel rest
  | _ + 1, '\r' :: _ => none
  | fuel + 1, c :: rest => if content.plain c then quotedFrom content fuel rest else none

/-- The text after a literal without escapes, whose opening quote has been read and which ends with
a quote and as many `#` as it began with. -/
def rawFrom (plain : Char → Bool) (marks : List Char) : List Char → Option (List Char)
  | [] => none
  | '"' :: rest =>
    if marks.isPrefixOf rest then some (skipSuffix (rest.drop marks.length))
    else rawFrom plain marks rest
  | '\r' :: '\n' :: rest => rawFrom plain marks rest
  | '\r' :: _ => none
  | c :: rest => if plain c then rawFrom plain marks rest else none

/-- The text after the `#`s, the quotes and the content of a literal without escapes. -/
def raw? (plain : Char → Bool) (text : List Char) : Option (List Char) :=
  let marks := text.takeWhile (· == '#')
  match text.drop marks.length with
  | '"' :: rest => if marks.length ≤ 255 then rawFrom plain marks rest else none
  | _ => none

/-- The text after a literal of one character, whose opening quote has been read. -/
def single? (content : Content) : List Char → Option (List Char)
  | '\\' :: rest =>
    match content.escape rest with
    | some ('\'' :: rest) => some (skipSuffix rest)
    | _ => none
  | c :: '\'' :: rest => if content.plain c then some (skipSuffix rest) else none
  | _ => none

/-- The text after a literal between quotes. -/
def quoted? (text : List Char) : Option (List Char) :=
  let fuel := text.length
  match text with
  | '"' :: rest => quotedFrom textContent fuel rest
  | 'r' :: rest => raw? textContent.plain rest
  | 'b' :: '"' :: rest => quotedFrom byteContent fuel rest
  | 'b' :: 'r' :: rest => raw? byteContent.plain rest
  | 'c' :: '"' :: rest => quotedFrom terminatedContent fuel rest
  | 'c' :: 'r' :: rest => raw? terminatedContent.plain rest
  | 'b' :: '\'' :: rest => single? byteContent rest
  | '\'' :: rest => single? textContent rest
  | _ => none

/-! ## Numbers -/

/-- The text after the suffix of a number; no word may go on there. -/
def endNumber (text : List Char) : Option (List Char) :=
  let rest := match text with
    | c :: _ => if c == '_' || isIdentifierStart c then skipSuffix text else text
    | [] => []
  match rest with
  | c :: _ => if isIdentifierContinue c then none else some rest
  | [] => some []

/-- The text after digits of a base and underscores. There must be a digit, and a digit that the
base does not have makes the number wrong; a letter ends it. -/
def digitsFrom (base : Nat) : (seen : Bool) → List Char → Option (List Char)
  | seen, [] => if seen then some [] else none
  | seen, c :: rest =>
    if c.isDigit then
      if hexValue c < base then digitsFrom base true rest else none
    else if isHexDigit c && hexValue c < base then digitsFrom base true rest
    else if c == '_' then if !seen && base == 10 then none else digitsFrom base seen rest
    else if seen then some (c :: rest) else none

/-- The text after the digits of a whole number. -/
def wholeDigits : List Char → Option (List Char)
  | '0' :: 'x' :: rest => digitsFrom 16 false rest
  | '0' :: 'o' :: rest => digitsFrom 8 false rest
  | '0' :: 'b' :: rest => digitsFrom 2 false rest
  | text => digitsFrom 10 false text

/-- Is the character a digit or an underscore? -/
def isDigitOrMark (c : Char) : Bool := c.isDigit || c == '_'

/-- The text after the digits of an exponent, if there is a digit. -/
def exponent? (text : List Char) : Option (List Char) :=
  let text := text.dropWhile (· == '_')
  let text := match text with
    | '+' :: rest => rest.dropWhile (· == '_')
    | '-' :: rest => rest.dropWhile (· == '_')
    | _ => text
  match text with
  | c :: _ => if c.isDigit then some (text.dropWhile isDigitOrMark) else none
  | [] => none

/-- The text after the digits, the point and the exponent of a number that has one of the latter
two. A point is part of the number unless a word or another point follows; an exponent without
digits is not part of it. -/
def fractionDigits (text : List Char) : Option (List Char) :=
  match text with
  | c :: _ =>
    if !c.isDigit then none
    else match text.dropWhile isDigitOrMark with
      | '.' :: rest =>
        let ends := match rest with
          | c :: _ => c == '.' || c == '_' || isIdentifierStart c
          | [] => false
        if ends then none
        else match rest.dropWhile isDigitOrMark with
          | c :: after =>
            if c == 'e' || c == 'E' then some ((exponent? after).getD (c :: after))
            else some (c :: after)
          | [] => some []
      | c :: after => if c == 'e' || c == 'E' then exponent? after else none
      | [] => none
  | [] => none

/-- The text after a number. -/
def number? (text : List Char) : Option (List Char) :=
  ((fractionDigits text).bind endNumber).orElse fun _ => (wholeDigits text).bind endNumber

/-! ## Tokens -/

/-- The punctuation characters. -/
def isPunctuation (c : Char) : Bool := c ∈ "~!@#$%^&*-=+|;:,<.>/?'".toList

/-- Does punctuation stand here, and not a comment? -/
def startsPunctuation (text : List Char) : Bool :=
  !startsWith "//" text && !startsWith "/*" text &&
    match text with
    | c :: _ => isPunctuation c
    | [] => false

/-- A lifetime whose apostrophe has been read. -/
def lifetime? (text : List Char) : Option (Token × List Char) := do
  let (name, raw, rest) ← identifier? text
  match rest with
  | '\'' :: _ => none
  | '#' :: _ => if raw then some (.lifetime ("'" ++ Token.wordText name raw), rest) else none
  | _ => some (.lifetime ("'" ++ Token.wordText name raw), rest)

/-- The token at the start of a text, other than a group, and the text after it. -/
def leaf? (text : List Char) : Option (Token × List Char) :=
  match (quoted? text).orElse fun _ => number? text with
  | some rest => some (.literal (upTo text rest), rest)
  | none =>
    if startsPunctuation text then
      match text with
      | '\'' :: rest => lifetime? rest
      | c :: rest => some (.punct c (startsPunctuation rest), rest)
      | [] => none
    else if literalStarts.any (startsWith · text) then none
    else (identifier? text).map fun (name, raw, rest) => (.word name raw, rest)

/-- The brackets a character opens. -/
def opens? : Char → Option Delimiter
  | '(' => some .parenthesis
  | '[' => some .bracket
  | '\x7b' => some .brace
  | _ => none

/-- The brackets a character closes. -/
def closes? : Char → Option Delimiter
  | ')' => some .parenthesis
  | ']' => some .bracket
  | '\x7d' => some .brace
  | _ => none

/-- Reads tokens up to the end of the text or, inside brackets, up to the closing one. `read` holds
the tokens read so far, in reverse. -/
def tokensFrom : (fuel : Nat) → (inside : Option Delimiter) → (read : List Token) → List Char →
    Option (List Token × List Char)
  | 0, _, _, _ => none
  | fuel + 1, inside, read, text =>
    let text := skipSpace text
    match docComment? text with
    | some (content, inner, rest) =>
      if hasBareReturn content then none
      else tokensFrom fuel inside ((docTokens content inner).reverse ++ read) rest
    | none =>
      match text with
      | [] => if inside.isNone then some (read.reverse, []) else none
      | c :: rest =>
        match opens? c, closes? c with
        | some delimiter, _ =>
          match tokensFrom fuel (some delimiter) [] rest with
          | some (tokens, rest) => tokensFrom fuel inside (.group delimiter tokens :: read) rest
          | none => none
        | none, some delimiter => if inside = some delimiter then some (read.reverse, rest) else none
        | none, none =>
          match leaf? (c :: rest) with
          | some (token, rest) => tokensFrom fuel inside (token :: read) rest
          | none => none

/-- The mark that may stand at the very start of a text. -/
def skipMark : List Char → List Char
  | '\ufeff' :: rest => rest
  | text => text

/-- The tokens of a text. -/
def tokens? (text : String) : Option (List Token) :=
  let chars := skipMark text.toList
  (tokensFrom (chars.length + 1) none [] chars).map Prod.fst

/-- A text without the line at its start that names an interpreter. An attribute may begin with the
same two characters and is no such line. -/
def skipInterpreter (text : List Char) : List Char :=
  if startsWith "#!" text && (skipSpace (text.drop 2)).head? != some '[' then
    text.dropWhile (· != '\n')
  else text

/-- The tokens of a source file. -/
def fileTokens? (text : String) : Option (List Token) :=
  tokens? (String.ofList (skipInterpreter (skipMark text.toList)))

end TypeSchema.Source.Lexer
