import TypeSchema.Descriptor

/-!
# What a type is built from

The identities of all types that a type is built from, itself included, in the order in which a
depth-first walk first meets them. The walk ends because every step uses up one of the identities
that the graph has.
-/

namespace TypeSchema.Graph

/-- The identities other than a given one. -/
def without (identity : String) (identities : List String) : List String :=
  identities.filter fun other => other != identity

/-- Without an identity that was in the list, the list is shorter. -/
theorem length_without_lt {identity : String} {identities : List String}
    (h : identity ∈ identities) : (without identity identities).length < identities.length :=
  List.length_filter_lt_length_iff_exists.2 ⟨identity, h, by simp⟩

variable {Ref : Type} (g : Graph Ref)

/-- The identities of the graph among `remaining` that are met on the way from the pending types, in
the order in which they are met. Pending types whose identity is used up are passed over. -/
def metFrom (remaining : List String) (pending : List Ref) : List String :=
  match _h : pending.find? fun r => decide (g.identity r ∈ remaining) with
  | none => []
  | some r =>
    g.identity r :: metFrom (without (g.identity r) remaining) (g.children r ++ pending)
termination_by remaining.length
decreasing_by exact length_without_lt (by simpa using List.find?_some _h)

/-- The identities of all types that a type is built from, each once. -/
def identitiesFrom (r : Ref) : List String := g.metFrom (g.refs.map g.identity) [r]

end TypeSchema.Graph
