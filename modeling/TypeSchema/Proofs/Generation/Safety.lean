import TypeSchema.Proofs.Generation.Step
import TypeSchema.Proofs.Validation.History

/-!
# Generation after validation

The validator and the generator go different ways through a graph: the one passes over every identity
it knows, the other unfolds every path. Whatever the generator meets lies below the type it began
with, though, and below an accepted type everything is well formed. So a generator that is only given
accepted types has two reasons left to fail: an object inside itself, and too deep a type.

`schemaAt_eq_error_of_sound` says so of a run, by induction on the levels; the step is
`schemaOfNode_eq_error`.
-/

namespace TypeSchema

namespace Generator

variable {Ref : Type} {g : Graph Ref} {docs : DocRegistry} {maxDepth : Nat}

/-- **Below a sound type** generation fails only because of an object inside itself or because of the
depth. -/
theorem schemaAt_eq_error_of_sound {levels : Nat} {path : List String} {r : Ref} {e : SchemaError}
    (hsound : g.Sound r) (h : (schemaAt g docs maxDepth levels path r).result = .error e) :
    (∃ id, e = .recursiveType id) ∨ ∃ id, e = .depthExceeded id maxDepth := by
  induction levels generalizing path r with
  | zero =>
    cases h
    exact .inr ⟨_, rfl⟩
  | succ levels ih =>
    rcases schemaAt_eq_error hsound.wellFormed h with
      ⟨hnone, -⟩ | ⟨-, -, hrec⟩ | ⟨-, fewer, hfewer, s, hs, herror⟩
    · cases hnone
    · exact .inl ⟨_, hrec⟩
    · cases hfewer
      exact ih (hsound.of_mem_parts hs) herror

end Generator

namespace Graph

open Validator

variable {Ref : Type} {g : Graph Ref}

/-- A sound type has no schema only if it is too deep or inside itself. -/
theorem schema_eq_error_of_sound {docs : DocRegistry} {config : GeneratorConfig} {r : Ref}
    {e : SchemaError} (hsound : g.Sound r) (h : (g.schema docs config r).result = .error e) :
    (∃ id, e = .recursiveType id) ∨ ∃ id, e = .depthExceeded id config.maxDepth :=
  Generator.schemaAt_eq_error_of_sound hsound h

/-- **What validation accepts, the generator can handle.** A type of a coherent family that is
accepted by a validator with any history in that family has a schema, unless an object lies inside
itself or the type is too deep. -/
theorem schema_of_accepted {history : List Ref} {r : Ref} (hcoherent : g.Coherent (r :: history))
    (docs : DocRegistry) (config : GeneratorConfig)
    (haccepted : ((validateAll g new history).2.validate g r).1.result = .ok ()) :
    (∃ schema, (g.schema docs config r).result = .ok schema) ∨
      (∃ id, (g.schema docs config r).result = .error (.recursiveType id)) ∨
      ∃ id, (g.schema docs config r).result = .error (.depthExceeded id config.maxDepth) := by
  have hrun : (validateAll g new history).2.Supported g (r :: history) :=
    supported_validateAll supported_new fun s hs =>
      reachedFrom_of_mem (List.mem_cons_of_mem r hs)
  have hsound : g.Sound r :=
    hrun.sound_of_accepted hcoherent.faithful (reachedFrom_of_mem List.mem_cons_self) haccepted
  cases hresult : (g.schema docs config r).result with
  | ok schema => exact .inl ⟨schema, rfl⟩
  | error e =>
    rcases schema_eq_error_of_sound hsound hresult with ⟨id, rfl⟩ | ⟨id, rfl⟩
    · exact .inr (.inl ⟨id, rfl⟩)
    · exact .inr (.inr ⟨id, rfl⟩)

/-- In the family with a cycle, a child is accepted after a visit was refused and a parent accepted.
Its schema fails as it lies inside itself, and not for want of anything. -/
theorem schema_of_accepted_child :
    ((validateAll family new [4, 0]).2.validate family 2).1.result = .ok () ∧
      ((∃ schema, (family.schema .empty {} 2).result = .ok schema) ∨
        (∃ id, (family.schema .empty {} 2).result = .error (.recursiveType id)) ∨
        ∃ id, (family.schema .empty {} 2).result = .error (.depthExceeded id 64)) := by
  have haccepted : ((validateAll family new [4, 0]).2.validate family 2).1.result = .ok () := by
    cbv
  exact ⟨haccepted, schema_of_accepted (coherent_family [2, 4, 0]) .empty {} haccepted⟩

end Graph

end TypeSchema
