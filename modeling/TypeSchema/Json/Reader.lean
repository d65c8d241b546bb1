/-!
# Reading JSON

Readers of the parts of a JSON text. Each takes the characters that are left and gives what it read
with the characters after it, or nothing if the text does not have the form. A value whose content
is of no interest is skipped; its form is checked all the same, but escapes in its texts need not
stand for characters.
-/

namespace TypeSchema.Json.Reader

/-- Is the character one of the four blanks of JSON? -/
def isBlank (c : Char) : Bool := c == ' ' || c == '\n' || c == '\t' || c == '\r'

/-- The text after the blanks at its start. -/
def skipBlanks (text : List Char) : List Char := text.dropWhile isBlank

/-- The text after a given first character. -/
def char? (c : Char) : List Char → Option (List Char)
  | d :: rest => if d = c then some rest else none
  | [] => none

/-- The text after a word it starts with. -/
def word? : List Char → List Char → Option (List Char)
  | [], text => some text
  | c :: word, text => (char? c text).bind (word? word)

/-- The value of a hexadecimal digit. -/
def hexDigit? (c : Char) : Option Nat :=
  if '0' ≤ c && c ≤ '9' then some (c.toNat - '0'.toNat)
  else if 'a' ≤ c && c ≤ 'f' then some (c.toNat - 'a'.toNat + 10)
  else if 'A' ≤ c && c ≤ 'F' then some (c.toNat - 'A'.toNat + 10)
  else none

/-- Four hexadecimal digits. -/
def hex4 : List Char → Option (Nat × List Char)
  | a :: b :: c :: d :: rest => do
    let a ← hexDigit? a
    let b ← hexDigit? b
    let c ← hexDigit? c
    let d ← hexDigit? d
    return (((a * 16 + b) * 16 + c) * 16 + d, rest)
  | _ => none

/-- What a letter after a backslash stands for. -/
def escape? : Char → Option Char
  | '"' => some '"'
  | '\\' => some '\\'
  | '/' => some '/'
  | 'b' => some (Char.ofNat 0x08)
  | 'f' => some (Char.ofNat 0x0c)
  | 'n' => some '\n'
  | 'r' => some '\r'
  | 't' => some '\t'
  | _ => none

/-- The character after a backslash and `u`: four digits, or twice four if the first stand for the
first half of a pair. A half without the other is no character. -/
def unicodeEscape (text : List Char) : Option (Char × List Char) := do
  let (n, rest) ← hex4 text
  if 0xdc00 ≤ n && n ≤ 0xdfff then none
  else if 0xd800 ≤ n && n ≤ 0xdbff then
    let rest ← word? ['\\', 'u'] rest
    let (low, rest) ← hex4 rest
    if 0xdc00 ≤ low && low ≤ 0xdfff then
      some (Char.ofNat (0x10000 + (n - 0xd800) * 0x400 + (low - 0xdc00)), rest)
    else none
  else some (Char.ofNat n, rest)

/-- The characters of a text up to its closing quote. `fuel` is at least the number of characters
that are left. -/
def stringFrom : (fuel : Nat) → (read : List Char) → List Char → Option (String × List Char)
  | 0, _, _ => none
  | _ + 1, _, [] => none
  | fuel + 1, read, c :: rest =>
    if c == '"' then some (String.ofList read.reverse, rest)
    else if c == '\\' then
      match rest with
      | 'u' :: rest => do
        let (c, rest) ← unicodeEscape rest
        stringFrom fuel (c :: read) rest
      | c :: rest => do
        let c ← escape? c
        stringFrom fuel (c :: read) rest
      | [] => none
    else if c.toNat < 0x20 then none
    else stringFrom fuel (c :: read) rest

/-- A text whose opening quote has been read. -/
def string (text : List Char) : Option (String × List Char) :=
  stringFrom (text.length + 1) [] text

/-- A natural number without sign, fraction and exponent, and without leading zeros. -/
def natural (text : List Char) : Option (Nat × List Char) :=
  let digits := text.takeWhile Char.isDigit
  let rest := text.dropWhile Char.isDigit
  if digits.isEmpty || (digits.head? == some '0' && digits.length != 1) then none
  else match rest with
    | '.' :: _ => none
    | 'e' :: _ => none
    | 'E' :: _ => none
    | _ => some (digits.foldl (fun n d => n * 10 + (d.toNat - '0'.toNat)) 0, rest)

/-! ## Skipping values -/

/-- The text after a text whose opening quote has been read. -/
def skipString : (fuel : Nat) → List Char → Option (List Char)
  | 0, _ => none
  | _ + 1, [] => none
  | fuel + 1, c :: rest =>
    if c == '"' then some rest
    else if c == '\\' then
      match rest with
      | 'u' :: rest => do
        let (_, rest) ← hex4 rest
        skipString fuel rest
      | c :: rest => do
        let _ ← escape? c
        skipString fuel rest
      | [] => none
    else if c.toNat < 0x20 then none
    else skipString fuel rest

/-- The text after at least one digit. -/
def skipDigits (text : List Char) : Option (List Char) :=
  match text with
  | c :: _ => if c.isDigit then some (text.dropWhile Char.isDigit) else none
  | [] => none

/-- The text after the digits before the point: a zero, or digits that start with none. -/
def skipInteger : List Char → Option (List Char)
  | '0' :: rest =>
    match rest with
    | c :: _ => if c.isDigit then none else some rest
    | [] => some rest
  | text => skipDigits text

/-- The text after a point and its digits, if there is a point. -/
def skipFraction : List Char → Option (List Char)
  | '.' :: rest => skipDigits rest
  | text => some text

/-- The text after an exponent, if there is one. -/
def skipExponent (text : List Char) : Option (List Char) :=
  match text with
  | c :: rest =>
    if c == 'e' || c == 'E' then
      match rest with
      | '+' :: rest => skipDigits rest
      | '-' :: rest => skipDigits rest
      | rest => skipDigits rest
    else some text
  | [] => some text

/-- The text after a number. -/
def skipNumber (text : List Char) : Option (List Char) :=
  let text := match text with | '-' :: rest => rest | text => text
  (skipInteger text).bind fun rest => (skipFraction rest).bind skipExponent

mutual

/-- The text after a value. -/
def skipValueFrom : (fuel : Nat) → List Char → Option (List Char)
  | 0, _ => none
  | fuel + 1, text =>
    match text with
    | 'n' :: _ => word? "null".toList text
    | 't' :: _ => word? "true".toList text
    | 'f' :: _ => word? "false".toList text
    | '"' :: rest => skipString text.length rest
    | '[' :: rest =>
      match skipBlanks rest with
      | ']' :: rest => some rest
      | rest => skipItems fuel rest
    | '{' :: rest =>
      match skipBlanks rest with
      | '}' :: rest => some rest
      | rest => skipMembers fuel rest
    | text => skipNumber text

/-- The text after the items of an array and its bracket. -/
def skipItems : (fuel : Nat) → List Char → Option (List Char)
  | 0, _ => none
  | fuel + 1, text => do
    let rest ← skipValueFrom fuel (skipBlanks text)
    match skipBlanks rest with
    | ',' :: rest => skipItems fuel rest
    | ']' :: rest => some rest
    | _ => none

/-- The text after the members of an object and its brace. -/
def skipMembers : (fuel : Nat) → List Char → Option (List Char)
  | 0, _ => none
  | fuel + 1, text => do
    let rest ← char? '"' (skipBlanks text)
    let rest ← skipString text.length rest
    let rest ← char? ':' (skipBlanks rest)
    let rest ← skipValueFrom fuel (skipBlanks rest)
    match skipBlanks rest with
    | ',' :: rest => skipMembers fuel rest
    | '}' :: rest => some rest
    | _ => none

end

/-- The text after a value of any kind. -/
def skipValue (text : List Char) : Option (List Char) :=
  skipValueFrom (2 * text.length + 2) text

end TypeSchema.Json.Reader
