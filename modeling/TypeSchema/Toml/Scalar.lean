import TypeSchema.Json.Reader
import TypeSchema.Toml.Value

/-!
# Scalars in TOML

A value that is no text, no list and no table is written without quotes: a truth value, a number, or
a date or time. Digits of numbers may be grouped by underscores.
-/

namespace TypeSchema.Toml.Scalar

/-! ## Numbers -/

/-- The value of a digit in a base, if it is one. -/
def digit? (base : Nat) (c : Char) : Option Nat := do
  let n ← Json.Reader.hexDigit? c
  if n < base then some n else none

/-- The values of digits that may have an underscore between any two. -/
def digits? (base : Nat) : List Char → Option (List Nat)
  | [] => none
  | [c] => do return [← digit? base c]
  | c :: '_' :: rest => do return (← digit? base c) :: (← digits? base rest)
  | c :: rest => do return (← digit? base c) :: (← digits? base rest)

/-- The number that digits stand for. -/
def valueOf (base : Nat) (digits : List Nat) : Nat := digits.foldl (fun n d => n * base + d) 0

/-- Digits of a decimal number, which start with a zero only if that is all. -/
def decimal? (text : List Char) : Option Nat := do
  let digits ← digits? 10 text
  if digits.head? = some 0 && digits.length ≠ 1 then none else some (valueOf 10 digits)

/-- Splits off a sign. -/
def splitSign : List Char → Option Char × List Char
  | '+' :: rest => (some '+', rest)
  | '-' :: rest => (some '-', rest)
  | text => (none, text)

/-- A whole number. Only a decimal one may have a sign. -/
def integer? (text : List Char) : Option Int :=
  match text with
  | '0' :: 'x' :: rest => (digits? 16 rest).map fun ds => (valueOf 16 ds : Int)
  | '0' :: 'o' :: rest => (digits? 8 rest).map fun ds => (valueOf 8 ds : Int)
  | '0' :: 'b' :: rest => (digits? 2 rest).map fun ds => (valueOf 2 ds : Int)
  | _ =>
    match splitSign text with
    | (some '-', rest) => (decimal? rest).map fun n => -(n : Int)
    | (_, rest) => (decimal? rest).map fun n => (n : Int)

/-- Is the text the exponent of a number, from its letter on? -/
def isExponent : List Char → Bool
  | c :: rest => (c == 'e' || c == 'E') && (digits? 10 (splitSign rest).2).isSome
  | [] => false

/-- Is the character the letter of an exponent? -/
def isExponentLetter (c : Char) : Bool := c == 'e' || c == 'E'

/-- Is the text a number with a fraction or an exponent, or one of the special numbers? -/
def isFloat (text : List Char) : Bool :=
  let (_, text) := splitSign text
  if text = "inf".toList || text = "nan".toList then true
  else
    let whole := text.takeWhile fun c => c != '.' && !isExponentLetter c
    let rest := text.dropWhile fun c => c != '.' && !isExponentLetter c
    (decimal? whole).isSome &&
      match rest with
      | '.' :: rest =>
        let fraction := rest.takeWhile fun c => !isExponentLetter c
        let exponent := rest.dropWhile fun c => !isExponentLetter c
        (digits? 10 fraction).isSome && (exponent.isEmpty || isExponent exponent)
      | rest => isExponent rest

/-! ## Dates and times -/

/-- So many decimal digits, and the text after them. -/
def fixed? (count : Nat) (text : List Char) : Option (Nat × List Char) := do
  let digits ← (text.take count).mapM (digit? 10)
  if digits.length = count then some (valueOf 10 digits, text.drop count) else none

/-- The number of days of a month. -/
def daysOf (year month : Nat) : Nat :=
  if month = 2 then
    if year % 4 = 0 && (year % 100 ≠ 0 || year % 400 = 0) then 29 else 28
  else if month ∈ [4, 6, 9, 11] then 30
  else 31

/-- The text after a date. -/
def skipDate (text : List Char) : Option (List Char) := do
  let (year, rest) ← fixed? 4 text
  let (month, rest) ← fixed? 2 (← Json.Reader.char? '-' rest)
  let (day, rest) ← fixed? 2 (← Json.Reader.char? '-' rest)
  if 1 ≤ month && month ≤ 12 && 1 ≤ day && day ≤ daysOf year month then some rest else none

/-- The text after the fraction of a second, if there is one. -/
def skipFraction : List Char → Option (List Char)
  | '.' :: rest =>
    let after := rest.dropWhile Char.isDigit
    if after.length < rest.length then some after else none
  | text => some text

/-- The text after a time of day; the seconds may be left out. -/
def skipTime (text : List Char) : Option (List Char) := do
  let (hour, rest) ← fixed? 2 text
  let (minute, rest) ← fixed? 2 (← Json.Reader.char? ':' rest)
  if hour > 23 || minute > 59 then none
  else match rest with
    | ':' :: rest => do
      let (second, rest) ← fixed? 2 rest
      if second > 60 then none else skipFraction rest
    | rest => some rest

/-- The text after the distance from world time, if it is given. -/
def skipOffset : List Char → Option (List Char)
  | 'Z' :: rest => some rest
  | 'z' :: rest => some rest
  | text => do
    match splitSign text with
    | (none, rest) => some rest
    | (some _, rest) =>
      let (hour, rest) ← fixed? 2 rest
      let (minute, rest) ← fixed? 2 (← Json.Reader.char? ':' rest)
      if hour > 23 || minute > 59 then none else some rest

/-- Is the text a date, a time, or a date and a time with or without a distance? -/
def isDatetime (text : List Char) : Bool :=
  match skipDate text with
  | some [] => true
  | some (c :: rest) =>
    (c == 'T' || c == 't' || c == ' ') && ((skipTime rest).bind skipOffset) == some []
  | none => skipTime text == some []

/-! ## Reading -/

/-- May the character stand in a scalar? -/
def isScalarChar (c : Char) : Bool :=
  c.isAlphanum || c == '_' || c == '+' || c == '-' || c == '.' || c == ':'

/-- What a text without quotes stands for. -/
def ofText? (text : List Char) : Option Value :=
  if text = "true".toList then some (.boolean true)
  else if text = "false".toList then some (.boolean false)
  else match integer? text with
    | some n => some (.integer n)
    | none =>
      if isFloat text then some (.float (String.ofList text))
      else if isDatetime text then some (.datetime (String.ofList text))
      else none

/-- The characters of a scalar and the text after them. A blank belongs to it between a date and a
time. -/
def split (text : List Char) : List Char × List Char :=
  let first := text.takeWhile isScalarChar
  let rest := text.dropWhile isScalarChar
  match rest with
  | ' ' :: c :: _ =>
    if skipDate first == some [] && c.isDigit then
      let rest := rest.drop 1
      (first ++ ' ' :: rest.takeWhile isScalarChar, rest.dropWhile isScalarChar)
    else (first, rest)
  | _ => (first, rest)

/-- A scalar and the text after it. -/
def read (text : List Char) : Option (Value × List Char) := do
  let (chosen, rest) := split text
  return (← ofText? chosen, rest)

end TypeSchema.Toml.Scalar
