import TypeSchema.Model.Table
import TypeSchema.Registry

/-!
# Registering documentation

A type adds to a registry the documentation of every derived model that it is built from: through
containers, keys and values of maps, and fields. A model that was visited is not entered again, so
that registration ends although models may contain themselves.
-/

namespace TypeSchema

namespace DocRegistry.Builder

/-- What was visited stays visited. -/
def Keeps (b after : Builder) : Prop := ∀ name ∈ b.visited, name ∈ after.visited

/-- Nothing is lost where nothing is done. -/
@[simp] theorem Keeps.refl (b : Builder) : b.Keeps b := fun _ h => h

/-- What is lost in neither of two steps is not lost. -/
theorem Keeps.trans {a b c : Builder} (hab : a.Keeps b) (hbc : b.Keeps c) : a.Keeps c :=
  fun name h => hbc name (hab name h)

/-- Documentation that is put in changes nothing of what was visited. -/
@[simp] theorem visited_insert (b : Builder) (identity : String) (doc : DocMetadata) :
    (b.insert identity doc).value.2.visited = b.visited := by
  unfold insert
  split <;> rfl

/-- The builder after a model is entered: it is visited, and its documentation is added. -/
def enter (b : Builder) (name : String) (docs : DocMetadata) : Logged Builder := do
  let b := { b with visited := name :: b.visited }
  if docs.isEmpty then return b
  let (_, b) ← b.insert name docs
  return b

/-- A type that is entered is visited. -/
@[simp] theorem visited_enter (b : Builder) (name : String) (docs : DocMetadata) :
    (b.enter name docs).value.visited = name :: b.visited := by
  unfold enter
  by_cases h : docs.isEmpty
  · simp [h, pure]
  · simp only [h]
    exact visited_insert { b with visited := name :: b.visited } name docs

end DocRegistry.Builder

namespace Models

open DocRegistry (Builder)

/-- A builder after a registration that began with the builder `b`. -/
abbrev Registered (b : Builder) := {after : Logged Builder // b.Keeps after.value}

/-- How many models are still to be visited. -/
def unvisited (models : Models) (b : Builder) : Nat :=
  models.entries.keys.countP fun name => decide (name ∉ b.visited)

/-- When nothing is lost, no more is left to visit. -/
theorem unvisited_le {models : Models} {b after : Builder} (h : b.Keeps after) :
    models.unvisited after ≤ models.unvisited b := by
  refine List.countP_mono_left fun name _ hname => ?_
  simp only [decide_eq_true_eq] at *
  exact fun hmem => hname (h name hmem)

/-- When a name is visited that was not, less is left to visit. -/
theorem unvisited_lt {models : Models} {b after : Builder} (h : b.Keeps after) {name : String}
    (hname : name ∈ models.entries.keys) (hold : name ∉ b.visited) (hnew : name ∈ after.visited) :
    models.unvisited after < models.unvisited b := by
  unfold unvisited
  have key : ∀ names : List String, name ∈ names →
      names.countP (fun n => decide (n ∉ after.visited)) <
        names.countP (fun n => decide (n ∉ b.visited)) := by
    intro names hmem
    induction names with
    | nil => simp at hmem
    | cons n rest ih =>
      have hle : rest.countP (fun n => decide (n ∉ after.visited)) ≤
          rest.countP (fun n => decide (n ∉ b.visited)) := by
        refine List.countP_mono_left fun m _ hm => ?_
        simp only [decide_eq_true_eq] at *
        exact fun hb => hm (h m hb)
      rcases List.mem_cons.1 hmem with rfl | hrest
      · rw [List.countP_cons_of_neg (by simpa using hnew), List.countP_cons_of_pos (by simpa using hold)]
        omega
      · have hlt := ih hrest
        by_cases hn : n ∈ after.visited
        · rw [List.countP_cons_of_neg (by simpa using hn)]
          rw [List.countP_cons]
          omega
        · have hb : n ∉ b.visited := fun hb => hn (h n hb)
          rw [List.countP_cons_of_pos (by simpa using hn), List.countP_cons_of_pos (by simpa using hb)]
          omega
  exact key _ hname

/-- Several types together have so many parts, and one more each. -/
def totalSize : List TypeExpr → Nat
  | [] => 0
  | t :: rest => t.size + totalSize rest + 1

/-- What is found under a name has the name among the keys. -/
theorem mem_keys_of_get? {models : Models} {name : String} {m : Model}
    (h : models.get? name = some m) : name ∈ models.entries.keys :=
  List.mem_map.2 ⟨(name, m), OrderedMap.mem_of_get? h, rfl⟩

/-- Registers several types, one after the other. A container stands for the type in it, a map for
the types of its keys and of its values. -/
def registerAll (models : Models) (b : Builder) : List TypeExpr → Registered b
  | [] => ⟨pure b, .refl b⟩
  | .scalar _ :: rest => registerAll models b rest
  | .container _ inner :: rest => registerAll models b (inner :: rest)
  | .map _ key value :: rest => registerAll models b (key :: value :: rest)
  | .model name :: rest =>
    match _hm : models.get? name with
    | some (.derived shape docs) =>
      if hv : name ∈ b.visited then registerAll models b rest
      else
        let entered := b.enter name docs
        have hentered : b.Keeps entered.value := fun n hn => by
          rw [Builder.visited_enter]
          exact List.mem_cons_of_mem _ hn
        let types := (Model.derived shape docs).fields.map ModelField.type
        let inner := registerAll models entered.value types
        have hinner : b.Keeps inner.1.value := hentered.trans inner.2
        let outer := registerAll models inner.1.value rest
        ⟨⟨outer.1.value, entered.events ++ inner.1.events ++ outer.1.events⟩, hinner.trans outer.2⟩
    | _ => registerAll models b rest
termination_by types => (models.unvisited b, totalSize types)
decreasing_by
  · exact Prod.Lex.right _ (by simp only [totalSize, TypeExpr.size]; omega)
  · exact Prod.Lex.right _ (by simp only [totalSize, TypeExpr.size]; omega)
  · exact Prod.Lex.right _ (by simp only [totalSize, TypeExpr.size]; omega)
  · exact Prod.Lex.right _ (by simp only [totalSize, TypeExpr.size]; omega)
  · exact Prod.Lex.left _ _ (unvisited_lt hentered (mem_keys_of_get? _hm) hv
      (by rw [Builder.visited_enter]; exact List.mem_cons_self))
  · rcases Nat.lt_or_eq_of_le (@unvisited_le models _ _ hinner) with hlt | heq
    · exact Prod.Lex.left _ _ hlt
    · rw [heq]
      exact Prod.Lex.right _ (by simp only [totalSize, TypeExpr.size]; omega)
  · exact Prod.Lex.right _ (by simp only [totalSize, TypeExpr.size]; omega)

/-- Registers a type with a builder. -/
def register (models : Models) (b : Builder) (t : TypeExpr) : Logged Builder :=
  (registerAll models b [t]).1

/-- The registry of all that a type is built from. -/
def registry (models : Models) (t : TypeExpr) : Logged DocRegistry := do
  let b ← models.register {} t
  b.build

end Models

end TypeSchema
