/-!
# JSON values

The members of an object are an ordered list, so that two values are equal only if their members
stand in the same order.
-/

namespace TypeSchema

/-- A JSON value with ordered members. Numbers are natural: no other number is ever written. -/
inductive Json where
  /-- The literal `null`. -/
  | null
  /-- A truth value. -/
  | bool (value : Bool)
  /-- A natural number. -/
  | number (value : Nat)
  /-- A text. -/
  | string (value : String)
  /-- A list of values. -/
  | array (items : List Json)
  /-- Named values in order. -/
  | object (members : List (String × Json))
  deriving Repr, Inhabited

namespace Json

/-- An array of texts. -/
def strings (texts : List String) : Json := .array (texts.map .string)

end Json

end TypeSchema
