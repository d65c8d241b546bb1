import TypeSchema.Json.Reader

/-!
# Texts in TOML

Readers of comments, line ends, texts and keys. Each takes the characters that are left and gives
what it read with the characters after it, or nothing if the text does not have the form. A text
stands between quotes: with double quotes it may have escapes, with single quotes it has none, and
with three quotes of either kind it may go over several lines.
-/

namespace TypeSchema.Toml.Reader

/-- Is the character a blank within a line? -/
def isBlank (c : Char) : Bool := c == ' ' || c == '\t'

/-- May the character stand in a text or a comment? Controls may not, apart from the tab. -/
def isTextChar (c : Char) : Bool := c == '\t' || (0x20 ≤ c.toNat && c.toNat != 0x7f)

/-- The text after the blanks at its start. -/
def skipBlanks (text : List Char) : List Char := text.dropWhile isBlank

/-- A line end and the text after it. -/
def lineEnd? : List Char → Option (List Char × List Char)
  | '\n' :: rest => some (['\n'], rest)
  | '\r' :: '\n' :: rest => some (['\r', '\n'], rest)
  | _ => none

/-- The text after the characters of a comment, from its line end on. -/
def skipComment : List Char → Option (List Char)
  | [] => some []
  | c :: rest =>
    if (lineEnd? (c :: rest)).isSome then some (c :: rest)
    else if isTextChar c then skipComment rest
    else none

/-- The text after the blanks, the comment and the line end at its start. Nothing else may stand
before the line end or the end of the text. -/
def endLine (text : List Char) : Option (List Char) := do
  let rest ← match skipBlanks text with
    | '#' :: rest => skipComment rest
    | rest => some rest
  match lineEnd? rest with
  | some (_, rest) => some rest
  | none => if rest.isEmpty then some [] else none

/-- The text after blanks, comments and line ends. `fuel` is more than the number of characters. -/
def skipLines : (fuel : Nat) → List Char → Option (List Char)
  | 0, _ => none
  | fuel + 1, text =>
    match skipBlanks text with
    | '#' :: rest => do skipLines fuel (← skipComment rest)
    | rest =>
      match lineEnd? rest with
      | some (_, rest) => skipLines fuel rest
      | none => some rest

/-! ## Escapes -/

/-- What a letter after a backslash stands for. -/
def escapeLetter? : Char → Option Char
  | '"' => some '"'
  | '\\' => some '\\'
  | 'b' => some (Char.ofNat 0x08)
  | 'e' => some (Char.ofNat 0x1b)
  | 'f' => some (Char.ofNat 0x0c)
  | 'n' => some '\n'
  | 'r' => some '\r'
  | 't' => some '\t'
  | _ => none

/-- The character whose code point is given by so many hexadecimal digits. -/
def codePoint (digits : Nat) (text : List Char) : Option (Char × List Char) := do
  let chosen := text.take digits
  if chosen.length ≠ digits then none
  else
    let values ← chosen.mapM Json.Reader.hexDigit?
    let n := values.foldl (fun n d => n * 16 + d) 0
    if n.isValidChar then some (Char.ofNat n, text.drop digits) else none

/-- The character that an escape stands for, after its backslash. -/
def escape : List Char → Option (Char × List Char)
  | 'x' :: rest => codePoint 2 rest
  | 'u' :: rest => codePoint 4 rest
  | 'U' :: rest => codePoint 8 rest
  | c :: rest => do return (← escapeLetter? c, rest)
  | [] => none

/-! ## Texts -/

/-- The rest of a text on one line, up to its closing quote. -/
def lineText (quote : Char) : (fuel : Nat) → (read : List Char) → List Char →
    Option (String × List Char)
  | 0, _, _ => none
  | _ + 1, _, [] => none
  | fuel + 1, read, c :: rest =>
    if c = quote then some (String.ofList read.reverse, rest)
    else if c = '\\' && quote = '"' then do
      let (c, rest) ← escape rest
      lineText quote fuel (c :: read) rest
    else if isTextChar c then lineText quote fuel (c :: read) rest
    else none

/-- Three quotes that end a text over several lines, and the text after them. Up to two more quotes
before them belong to the text; their number is given. -/
def closing? (quote : Char) (text : List Char) : Option (Nat × List Char) :=
  let count := (text.takeWhile (· == quote)).length
  if count < 3 then none
  else
    let own := min (count - 3) 2
    some (own, text.drop (own + 3))

/-- The text after all blanks and line ends at its start. -/
def skipWhite : List Char → List Char
  | '\r' :: '\n' :: rest => skipWhite rest
  | c :: rest => if isBlank c || c == '\n' then skipWhite rest else c :: rest
  | [] => []

/-- The text after the line end that follows a backslash, and after all blanks and line ends that
follow. -/
def skipContinuation (text : List Char) : Option (List Char) := do
  let (_, rest) ← lineEnd? (skipBlanks text)
  return skipWhite rest

/-- The rest of a text over several lines. -/
def linesText (quote : Char) : (fuel : Nat) → (read : List Char) → List Char →
    Option (String × List Char)
  | 0, _, _ => none
  | _ + 1, _, [] => none
  | fuel + 1, read, c :: rest =>
    match closing? quote (c :: rest) with
    | some (own, rest) => some (String.ofList (read.reverse ++ List.replicate own quote), rest)
    | none =>
      match lineEnd? (c :: rest) with
      | some (ending, rest) => linesText quote fuel (ending.reverse ++ read) rest
      | none =>
        if c = '\\' && quote = '"' then
          match skipContinuation rest with
          | some rest => linesText quote fuel read rest
          | none => do
            let (c, rest) ← escape rest
            linesText quote fuel (c :: read) rest
        else if isTextChar c then linesText quote fuel (c :: read) rest
        else none

/-- The text without the line end at its start. -/
def skipFirstLineEnd (text : List Char) : List Char :=
  match lineEnd? text with
  | some (_, rest) => rest
  | none => text

/-- A text with its quotes. -/
def text? (text : List Char) : Option (String × List Char) :=
  let fuel := text.length + 1
  match text with
  | '"' :: '"' :: '"' :: rest => linesText '"' fuel [] (skipFirstLineEnd rest)
  | '\'' :: '\'' :: '\'' :: rest => linesText '\'' fuel [] (skipFirstLineEnd rest)
  | '"' :: rest => lineText '"' fuel [] rest
  | '\'' :: rest => lineText '\'' fuel [] rest
  | _ => none

/-! ## Keys -/

/-- May the character stand in a key without quotes? -/
def isKeyChar (c : Char) : Bool := c.isAlphanum || c == '_' || c == '-'

/-- One name of a key: without quotes, or as a text on one line. -/
def name? (text : List Char) : Option (String × List Char) :=
  match text with
  | '"' :: rest => lineText '"' (text.length + 1) [] rest
  | '\'' :: rest => lineText '\'' (text.length + 1) [] rest
  | _ =>
    let name := text.takeWhile isKeyChar
    if name.isEmpty then none else some (String.ofList name, text.dropWhile isKeyChar)

/-- A key: names with points between them. `fuel` is more than the number of characters. -/
def key? : (fuel : Nat) → List Char → Option (List String × List Char)
  | 0, _ => none
  | fuel + 1, text => do
    let (name, rest) ← name? (skipBlanks text)
    match skipBlanks rest with
    | '.' :: rest => do
      let (names, rest) ← key? fuel rest
      return (name :: names, rest)
    | rest => return ([name], rest)

end TypeSchema.Toml.Reader
