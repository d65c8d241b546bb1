/-!
# TOML values

A document stands for a table. Numbers with a fraction or an exponent, and dates and times, are kept
as they are written.
-/

namespace TypeSchema.Toml

/-- A value of a document. -/
inductive Value where
  /-- A text. -/
  | string (text : String)
  /-- A whole number. -/
  | integer (n : Int)
  /-- Any other number. -/
  | float (text : String)
  /-- A truth value. -/
  | boolean (b : Bool)
  /-- A date, a time or both. -/
  | datetime (text : String)
  /-- A list of values. -/
  | array (items : List Value)
  /-- Values under names. -/
  | table (entries : List (String × Value))
  deriving Repr, Inhabited

namespace Value

/-- The text, if the value is one. -/
def string? : Value → Option String
  | string text => some text
  | _ => none

/-- The truth value, if the value is one. -/
def boolean? : Value → Option Bool
  | boolean b => some b
  | _ => none

/-- The number, if the value is a whole number that is not negative. -/
def natural? : Value → Option Nat
  | integer (.ofNat n) => some n
  | _ => none

/-- The texts, if the value is a list of texts. -/
def strings? : Value → Option (List String)
  | array items => items.mapM string?
  | _ => none

end Value

end TypeSchema.Toml
