import TypeSchema.Generation

/-!
# Batches

A batch generates the schemas of several types with one validator. A type that fails does not keep
the others from their schemas; the failures are collected.
-/

namespace TypeSchema

/-- What came of a batch. -/
structure BatchOutcome where
  /-- The schemas, by identity. -/
  schemas : OrderedMap Schema := .empty
  /-- The failures in order, each with the identity of its type. -/
  failures : List (String × Failure) := []

namespace BatchOutcome

/-- Did every type get its schema? -/
def isSuccess (outcome : BatchOutcome) : Bool := outcome.failures.isEmpty

/-- Adds failures at the end. -/
def addFailures (outcome : BatchOutcome) (failures : List (String × Failure)) : BatchOutcome :=
  { outcome with failures := outcome.failures ++ failures }

/-- Records what came of one type. -/
def record (outcome : BatchOutcome) (identity : String) (result : Except Failure Schema) :
    Logged BatchOutcome :=
  match result with
  | .ok schema =>
    ⟨{ outcome with schemas := outcome.schemas.insert identity schema }, [.generated identity]⟩
  | .error failure =>
    ⟨outcome.addFailures [(identity, failure)], [.generationFailed identity failure]⟩

/-- The schemas, if every type got one. -/
def toExcept (outcome : BatchOutcome) : Except BatchError (OrderedMap Schema) :=
  if outcome.isSuccess then .ok outcome.schemas else .error ⟨outcome.failures⟩

end BatchOutcome

namespace Batch

variable {Ref : Type} (g : Graph Ref) (docs : DocRegistry) (config : GeneratorConfig)

/-- One type of a batch: what came of it, and the validator for the next one. -/
def runOne (v : Validator) (r : Ref) : Logged (Except Failure Schema) × Validator :=
  let (validation, after) := v.validate g r
  let attempt : Attempt Failure Schema := do
    Attempt.mapError .validation validation
    Attempt.mapError .schema (g.schema docs config r)
  (ExceptT.run attempt, after)

/-- The types of a batch, one after the other. -/
def runFrom (v : Validator) (outcome : BatchOutcome) : List Ref → Logged BatchOutcome
  | [] => pure outcome
  | r :: rest => do
    let (attempt, after) := runOne g docs config v r
    let result ← attempt
    let outcome ← outcome.record (g.identity r) result
    runFrom after outcome rest

/-- Generates the schemas of the given types. -/
def run (roots : List Ref) : Logged BatchOutcome := runFrom g docs config .new {} roots

end Batch

end TypeSchema
