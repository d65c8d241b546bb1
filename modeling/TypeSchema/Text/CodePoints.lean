/-!
# Sets of code points

A property of characters is given as a table of code point ranges. The table is in ascending order
and without overlap, so membership is a binary search.
-/

namespace TypeSchema.Text

/-- A set of code points: inclusive ranges in ascending order. -/
structure CodePoints where
  /-- The first and the last code point of each range. -/
  ranges : Array (Nat × Nat)

namespace CodePoints

/-- Is `c` in one of the ranges with an index from `low` up to, not including, `high`? -/
def search (ranges : Array (Nat × Nat)) (c : Nat) (low high : Nat) : Bool :=
  if low < high then
    let mid := (low + high) / 2
    match ranges[mid]? with
    | none => false
    | some (first, last) =>
      if c < first then search ranges c low mid
      else if last < c then search ranges c (mid + 1) high
      else true
  else false
termination_by high - low

/-- Is the character in the set? -/
def contains (set : CodePoints) (c : Char) : Bool :=
  search set.ranges c.toNat 0 set.ranges.size

end CodePoints

end TypeSchema.Text
