import TypeSchema.Proofs.Model.Verdict

/-!
# What a registry holds

Registration walks the types depth first. It does not enter a model that it has visited, and it
decides so before it looks at the model's fields; all the same nothing is missed on a cycle, and
nothing is put in twice.

* `Uses` is the way from a type to the types that it is built from: through containers and wrappers,
  keys and values of maps, and the fields of models that derive their descriptions.
* `Registers` lists all that a registration can do, and `registers_registerAll` says that it does
  nothing else.
* `Accurate` is the invariant of a builder: it holds **the documentation of the models that it has
  visited**, and of no others. Entering a new model keeps it (`Accurate.enter`), hence registration
  does (`Registers.accurate`), and it never replaces anything.
* `mem_visited_iff`: from the beginning on, the visited models are the derived ones that the
  registered types use.
* `registry_of_registrations` says what follows for the registry.
-/

namespace TypeSchema.Models

open DocRegistry (Builder)

/-! ### The types that a type uses -/

/-- The type expressions one step below a type expression, the keys of maps among them. A model that
is written by hand does not tell what it is built from. -/
def uses (models : Models) : TypeExpr → List TypeExpr
  | .scalar _ => []
  | .container _ inner => [inner]
  | .map _ key value => [key, value]
  | .model name =>
    match models.get? name with
    | some (.derived shape docs) => (Model.derived shape docs).fields.map ModelField.type
    | _ => []

/-- The way from a type expression to one that it uses, of any number of steps. -/
def Uses (models : Models) : TypeExpr → TypeExpr → Prop :=
  Relation.ReflTransGen fun t u => u ∈ models.uses t

/-- Is the name that of a model that derives its description? -/
def IsDerived (models : Models) (name : String) : Prop :=
  ∃ shape docs, models.get? name = some (.derived shape docs)

variable {models : Models}

/-- A derived type uses the types of its fields. -/
theorem uses_of_derived {name : String} {shape : ModelShape} {docs : DocMetadata}
    (h : models.get? name = some (.derived shape docs)) :
    models.uses (.model name) = (Model.derived shape docs).fields.map ModelField.type := by
  simp only [uses, h]

/-- A type that is not derived uses no others. -/
theorem uses_of_not_derived {name : String} (h : ¬ models.IsDerived name) :
    models.uses (.model name) = [] := by
  cases hget : models.get? name with
  | none => simp only [uses, hget]
  | some m =>
    cases m with
    | derived shape docs => exact absurd ⟨shape, docs, hget⟩ h
    | handwritten identity shape => simp only [uses, hget]

/-! ### What a registration does -/

/-- The ways in which the registration of types goes on from a builder, with the builder and the
events at its end. -/
inductive Registers (models : Models) : Builder → List TypeExpr → Logged Builder → Prop where
  /-- There is no type left. -/
  | nothing {b : Builder} : Registers models b [] ⟨b, []⟩
  /-- A type that is no derived model stands for the types that it uses. -/
  | through {b : Builder} {t : TypeExpr} {rest : List TypeExpr} {after : Logged Builder}
      (hplain : ∀ name, t = .model name → ¬ models.IsDerived name)
      (hparts : Registers models b (models.uses t ++ rest) after) :
      Registers models b (t :: rest) after
  /-- A model that was visited is passed over. -/
  | again {b : Builder} {name : String} {rest : List TypeExpr} {after : Logged Builder}
      (hvisited : name ∈ b.visited) (hrest : Registers models b rest after) :
      Registers models b (.model name :: rest) after
  /-- A derived model that was not visited is entered, and then the types of its fields are
  registered. -/
  | enter {b : Builder} {name : String} {shape : ModelShape} {docs : DocMetadata}
      {rest : List TypeExpr} {inner outer : Logged Builder}
      (hget : models.get? name = some (.derived shape docs)) (hnew : name ∉ b.visited)
      (hinner : Registers models (b.enter name docs).value (models.uses (.model name)) inner)
      (houter : Registers models inner.value rest outer) :
      Registers models b (.model name :: rest)
        ⟨outer.value, (b.enter name docs).events ++ inner.events ++ outer.events⟩

/-- A type that is not derived is passed over to what it uses. -/
theorem registerAll_of_not_derived {b : Builder} {t : TypeExpr} {rest : List TypeExpr}
    (h : ∀ name, t = .model name → ¬ models.IsDerived name) :
    (models.registerAll b (t :: rest)).1 = (models.registerAll b (models.uses t ++ rest)).1 := by
  cases t with
  | scalar | container | map =>
    rw [registerAll]
    rfl
  | model name =>
    have hname : ¬ models.IsDerived name := h name rfl
    rw [registerAll, uses_of_not_derived hname]
    split
    · next shape docs hget => exact absurd ⟨shape, docs, hget⟩ hname
    · rfl

/-- A type that was visited is passed over. -/
theorem registerAll_of_visited {b : Builder} {name : String} {rest : List TypeExpr}
    (h : name ∈ b.visited) :
    (models.registerAll b (.model name :: rest)).1 = (models.registerAll b rest).1 := by
  rw [registerAll]
  split
  · rw [dif_pos h]
  · rfl

/-- A derived type that is new is entered, and the types of its fields come before the rest. -/
theorem registerAll_of_new {b : Builder} {name : String} {shape : ModelShape} {docs : DocMetadata}
    {rest : List TypeExpr} (hget : models.get? name = some (.derived shape docs))
    (hnew : name ∉ b.visited) :
    (models.registerAll b (.model name :: rest)).1 =
      let inner := models.registerAll (b.enter name docs).value (models.uses (.model name))
      let outer := models.registerAll inner.1.value rest
      ⟨outer.1.value, (b.enter name docs).events ++ inner.1.events ++ outer.1.events⟩ := by
  rw [registerAll, uses_of_derived hget]
  split
  · next shape' docs' hget' =>
    cases hget.symm.trans hget'
    rw [dif_neg hnew]
  · next hother => exact absurd hget (hother shape docs)

/-- Entering a type takes nothing away. -/
theorem keeps_enter (b : Builder) (name : String) (docs : DocMetadata) :
    b.Keeps (b.enter name docs).value := by
  intro other hother
  rw [Builder.visited_enter]
  exact List.mem_cons_of_mem _ hother

/-- Types in two lists are counted together. -/
@[simp] theorem totalSize_append (types rest : List TypeExpr) :
    totalSize (types ++ rest) = totalSize types + totalSize rest := by
  induction types with
  | nil => simp [totalSize]
  | cons t types ih =>
    simp only [List.cons_append, totalSize, ih]
    omega

/-- What a type uses without being derived is smaller than the type. -/
theorem totalSize_uses_lt {t : TypeExpr} (h : ∀ name, t = .model name → ¬ models.IsDerived name) :
    totalSize (models.uses t) < t.size + 1 := by
  cases t with
  | scalar => simp [uses, totalSize]
  | container => simp [uses, totalSize, TypeExpr.size]
  | map =>
    simp only [uses, totalSize, TypeExpr.size]
    omega
  | model name =>
    rw [uses_of_not_derived (h name rfl)]
    simp [totalSize]

/-- **Registration does what `Registers` says.** The recursion is that of the registration itself: a
model that is entered is one less to visit, and everything else makes the types smaller. -/
theorem registers_registerAll (models : Models) :
    (b : Builder) → (types : List TypeExpr) →
      models.Registers b types (models.registerAll b types).1
  | b, [] => by
    rw [registerAll]
    exact .nothing
  | b, t :: rest => by
    by_cases hplain : ∀ name, t = .model name → ¬ models.IsDerived name
    · rw [registerAll_of_not_derived hplain]
      exact .through hplain (registers_registerAll models b (models.uses t ++ rest))
    · push Not at hplain
      obtain ⟨name, rfl, shape, docs, hget⟩ := hplain
      by_cases hvisited : name ∈ b.visited
      · rw [registerAll_of_visited hvisited]
        exact .again hvisited (registers_registerAll models b rest)
      · rw [registerAll_of_new hget hvisited]
        exact .enter hget hvisited (registers_registerAll models _ _)
          (registers_registerAll models _ rest)
termination_by b types => (models.unvisited b, totalSize types)
decreasing_by
  · have hlt := totalSize_uses_lt hplain
    refine Prod.Lex.right _ ?_
    rw [totalSize_append, totalSize]
    omega
  · refine Prod.Lex.right _ ?_
    rw [totalSize]
    omega
  · refine Prod.Lex.left _ _ (unvisited_lt (keeps_enter b name docs) (mem_keys_of_get? hget)
      hvisited ?_)
    rw [Builder.visited_enter]
    exact List.mem_cons_self
  · have hinner := (models.registerAll (b.enter name docs).value (models.uses (.model name))).2
    have hkeeps := (keeps_enter b name docs).trans hinner
    have hle : models.unvisited (models.registerAll (b.enter name docs).value
        (models.uses (.model name))).1.value ≤ models.unvisited b := unvisited_le hkeeps
    rcases Nat.lt_or_eq_of_le hle with hlt | heq
    · exact Prod.Lex.left _ _ hlt
    · rw [heq]
      refine Prod.Lex.right _ ?_
      rw [totalSize]
      omega

/-! ### Builders on the way -/

/-- Has the builder visited derived models only, each of them once, and does it hold the
documentation that these have of their own, and no other? -/
structure Accurate (models : Models) (b : Builder) : Prop where
  /-- No model was visited twice. -/
  nodup : b.visited.Nodup
  /-- The visited models derive their descriptions. -/
  derived : ∀ name ∈ b.visited, models.IsDerived name
  /-- What is held is the documentation of the visited models. -/
  get?_eq : ∀ name, b.entries.get? name =
    if name ∈ b.visited then models.ownDocs (.model name) else none

/-- A registry in which nothing is can say nothing wrong. -/
theorem accurate_empty (models : Models) : models.Accurate {} where
  nodup := List.nodup_nil
  derived _ h := absurd h List.not_mem_nil
  get?_eq _ := rfl

/-- A derived type has its own documentation, unless there is nothing in it. -/
theorem ownDocs_of_derived {name : String} {shape : ModelShape} {docs : DocMetadata}
    (h : models.get? name = some (.derived shape docs)) :
    models.ownDocs (.model name) = if docs.isEmpty then none else some docs := by
  simp [ownDocs, h, Model.ownDocs]

/-- A type with documentation of its own is derived. -/
theorem isDerived_of_ownDocs {name : String} {docs : DocMetadata}
    (h : models.ownDocs (.model name) = some docs) : models.IsDerived name := by
  unfold ownDocs at h
  obtain ⟨m, hm, hdocs⟩ := Option.bind_eq_some_iff.1 h
  cases m with
  | derived shape own => exact ⟨shape, own, hm⟩
  | handwritten => cases hdocs

/-- Entering a model that has no documentation yet adds it, and replaces nothing. -/
theorem enter_eq {b : Builder} {name : String} (h : b.entries.get? name = none)
    (docs : DocMetadata) :
    b.enter name docs =
      ⟨{ entries := if docs.isEmpty then b.entries else b.entries.insert name docs,
         visited := name :: b.visited }, []⟩ := by
  unfold Builder.enter
  by_cases hempty : docs.isEmpty = true
  · simp [hempty, pure]
  · simp [hempty, Builder.insert, h, bind, pure]

/-- **Entering a new model** keeps a builder accurate, and nothing is replaced. -/
theorem Accurate.enter {b : Builder} (h : models.Accurate b) {name : String} {shape : ModelShape}
    {docs : DocMetadata} (hget : models.get? name = some (.derived shape docs))
    (hnew : name ∉ b.visited) :
    models.Accurate (b.enter name docs).value ∧ (b.enter name docs).events = [] := by
  have hnone : b.entries.get? name = none := by
    rw [h.get?_eq, if_neg hnew]
  rw [enter_eq hnone]
  refine ⟨⟨List.nodup_cons.2 ⟨hnew, h.nodup⟩, ?_, ?_⟩, rfl⟩
  · intro other hother
    rcases List.mem_cons.1 hother with rfl | hold
    · exact ⟨shape, docs, hget⟩
    · exact h.derived other hold
  · intro other
    by_cases hname : other = name
    · subst hname
      rw [if_pos List.mem_cons_self, ownDocs_of_derived hget]
      by_cases hempty : docs.isEmpty = true
      · simpa [hempty] using hnone
      · simp [hempty]
    · have hvisited : other ∈ name :: b.visited ↔ other ∈ b.visited := by simp [hname]
      simp only [hvisited]
      rw [← h.get?_eq]
      by_cases hempty : docs.isEmpty = true
      · simp [hempty]
      · simpa [hempty] using OrderedMap.get?_insert_of_ne hname docs

/-- **Registration keeps a builder accurate**, and it replaces nothing. -/
theorem Registers.accurate {b : Builder} {types : List TypeExpr} {after : Logged Builder}
    (h : models.Registers b types after) (hb : models.Accurate b) :
    models.Accurate after.value ∧ after.events = [] := by
  induction h with
  | nothing => exact ⟨hb, rfl⟩
  | through _ _ ih => exact ih hb
  | again _ _ ih => exact ih hb
  | enter hget hnew _ _ ihinner ihouter =>
    obtain ⟨hentered, hnone⟩ := hb.enter hget hnew
    obtain ⟨hinner, hnoneInner⟩ := ihinner hentered
    obtain ⟨houter, hnoneOuter⟩ := ihouter hinner
    refine ⟨houter, ?_⟩
    simp [hnone, hnoneInner, hnoneOuter]

/-! ### The models that are visited -/

/-- Registering types takes nothing away. -/
theorem Registers.keeps {b : Builder} {types : List TypeExpr} {after : Logged Builder}
    (h : models.Registers b types after) : b.Keeps after.value := by
  induction h with
  | nothing => exact .refl _
  | through _ _ ih => exact ih
  | again _ _ ih => exact ih
  | enter _ _ _ _ ihinner ihouter =>
    exact ((keeps_enter _ _ _).trans ihinner).trans ihouter

/-- **What is visited is used**: a model that is newly visited is used by a registered type. -/
theorem Registers.exists_uses {b : Builder} {types : List TypeExpr} {after : Logged Builder}
    (h : models.Registers b types after) {name : String} (hname : name ∈ after.value.visited)
    (hnew : name ∉ b.visited) : ∃ t ∈ types, models.Uses t (.model name) := by
  induction h with
  | nothing => exact absurd hname hnew
  | @through b t rest after hplain hparts ih =>
    obtain ⟨u, hu, huses⟩ := ih hname hnew
    rcases List.mem_append.1 hu with hpart | hrest
    · exact ⟨t, List.mem_cons_self, Relation.ReflTransGen.head hpart huses⟩
    · exact ⟨u, List.mem_cons_of_mem _ hrest, huses⟩
  | again _ _ ih =>
    obtain ⟨u, hu, huses⟩ := ih hname hnew
    exact ⟨u, List.mem_cons_of_mem _ hu, huses⟩
  | @enter b other shape docs rest inner outer hget hother hinner houter ihinner ihouter =>
    by_cases hin : name ∈ inner.value.visited
    · refine ⟨.model other, List.mem_cons_self, ?_⟩
      by_cases hentered : name ∈ (b.enter other docs).value.visited
      · rw [Builder.visited_enter] at hentered
        rcases List.mem_cons.1 hentered with rfl | hold
        · exact Relation.ReflTransGen.refl
        · exact absurd hold hnew
      · obtain ⟨u, hu, huses⟩ := ihinner hin hentered
        exact Relation.ReflTransGen.head hu huses
    · obtain ⟨u, hu, huses⟩ := ihouter hname hin
      exact ⟨u, List.mem_cons_of_mem _ hu, huses⟩

/-- Are the derived models that the type expression is written with among the visited ones? -/
def Covers (models : Models) (visited : List String) (t : TypeExpr) : Prop :=
  ∀ name ∈ t.modelNames, models.IsDerived name → name ∈ visited

/-- What is covered stays so when more is visited. -/
theorem Covers.mono {visited more : List String} (hmore : ∀ name ∈ visited, name ∈ more)
    {t : TypeExpr} (h : models.Covers visited t) : models.Covers more t := by
  intro name hname hderived
  exact hmore name (h name hname hderived)

/-- A type that is no derived model is covered if the types that it uses are. -/
theorem covers_of_forall_uses {visited : List String} {t : TypeExpr}
    (hplain : ∀ name, t = .model name → ¬ models.IsDerived name)
    (h : ∀ u ∈ models.uses t, models.Covers visited u) : models.Covers visited t := by
  cases t with
  | scalar => exact fun _ hname => absurd hname List.not_mem_nil
  | container c inner => exact h inner (List.mem_singleton_self inner)
  | map c key value =>
    intro name hname
    rcases List.mem_append.1 hname with hkey | hvalue
    · exact h key List.mem_cons_self name hkey
    · exact h value (List.mem_cons_of_mem _ (List.mem_singleton_self value)) name hvalue
  | model name =>
    intro other hother hderived
    rw [List.mem_singleton.1 hother] at hderived
    exact absurd hderived (hplain name rfl)

/-- **What is used is visited.** The registered types are covered, and so are the types of the
fields of every model that was entered on the way. A model that is passed over because it is being
walked further out is covered there at the end, and not where it is passed over: therefore what is
said is of the end of the whole registration. -/
theorem Registers.covers {b : Builder} {types : List TypeExpr} {after : Logged Builder}
    (h : models.Registers b types after) :
    (∀ t ∈ types, models.Covers after.value.visited t) ∧
      ∀ name ∈ after.value.visited, name ∉ b.visited →
        ∀ u ∈ models.uses (.model name), models.Covers after.value.visited u := by
  induction h with
  | nothing =>
    exact ⟨fun _ ht => absurd ht List.not_mem_nil, fun _ hname hnew => absurd hname hnew⟩
  | @through b t rest after hplain hparts ih =>
    obtain ⟨htypes, hfields⟩ := ih
    refine ⟨?_, hfields⟩
    intro u hu
    rcases List.mem_cons.1 hu with rfl | hrest
    · exact covers_of_forall_uses hplain fun v hv => htypes v (List.mem_append_left _ hv)
    · exact htypes u (List.mem_append_right _ hrest)
  | @again b name rest after hvisited hrest ih =>
    obtain ⟨htypes, hfields⟩ := ih
    refine ⟨?_, hfields⟩
    intro u hu
    rcases List.mem_cons.1 hu with rfl | hmem
    · intro other hother _
      rw [List.mem_singleton.1 hother]
      exact hrest.keeps name hvisited
    · exact htypes u hmem
  | @enter b name shape docs rest inner outer hget hnew hinner houter ihinner ihouter =>
    obtain ⟨htypesInner, hfieldsInner⟩ := ihinner
    obtain ⟨htypesOuter, hfieldsOuter⟩ := ihouter
    have hkeeps : inner.value.Keeps outer.value := houter.keeps
    have hentered : name ∈ inner.value.visited := by
      refine hinner.keeps name ?_
      rw [Builder.visited_enter]
      exact List.mem_cons_self
    constructor
    · intro u hu
      rcases List.mem_cons.1 hu with rfl | hmem
      · intro other hother _
        rw [List.mem_singleton.1 hother]
        exact hkeeps name hentered
      · exact htypesOuter u hmem
    · intro other hother hold u hu
      by_cases hin : other ∈ inner.value.visited
      · by_cases hname : other = name
        · subst hname
          exact (htypesInner u hu).mono hkeeps
        · have hnotEntered : other ∉ (b.enter name docs).value.visited := by
            rw [Builder.visited_enter]
            simp [hname, hold]
          exact (hfieldsInner other hin hnotEntered u hu).mono hkeeps
      · exact hfieldsOuter other hother hin u hu

/-- Where the visited models are covered one step further, everything that a covered type uses is
covered. -/
theorem Covers.of_uses {visited : List String}
    (hclosed : ∀ name ∈ visited, ∀ u ∈ models.uses (.model name), models.Covers visited u)
    {t u : TypeExpr} (ht : models.Covers visited t) (hu : models.Uses t u) :
    models.Covers visited u := by
  induction hu with
  | refl => exact ht
  | @tail u v _ hv ih =>
    cases u with
    | scalar => exact absurd hv List.not_mem_nil
    | container c inner =>
      rw [List.mem_singleton.1 hv]
      exact ih
    | map c key value =>
      intro name hname
      rcases List.mem_cons.1 hv with rfl | hv
      · exact ih name (List.mem_append_left _ hname)
      · rw [List.mem_singleton.1 hv] at hname
        exact ih name (List.mem_append_right _ hname)
    | model name =>
      by_cases hderived : models.IsDerived name
      · exact hclosed name (ih name (List.mem_singleton_self name) hderived) v hv
      · rw [uses_of_not_derived hderived] at hv
        exact absurd hv List.not_mem_nil

/-- **From the beginning on**, the visited models are the derived ones that the registered types
use. -/
theorem Registers.mem_visited_iff {types : List TypeExpr} {after : Logged Builder}
    (h : models.Registers {} types after) {name : String} :
    name ∈ after.value.visited ↔
      models.IsDerived name ∧ ∃ t ∈ types, models.Uses t (.model name) := by
  constructor
  · intro hname
    have haccurate := (h.accurate (accurate_empty models)).1
    exact ⟨haccurate.derived name hname, h.exists_uses hname List.not_mem_nil⟩
  · rintro ⟨hderived, t, ht, huses⟩
    obtain ⟨htypes, hfields⟩ := h.covers
    have hcovers := (htypes t ht).of_uses
      (fun other hother => hfields other hother List.not_mem_nil) huses
    exact hcovers name (List.mem_singleton_self name) hderived

/-! ### Types that are registered in turn -/

/-- One registration after another is the registration of both lists of types. -/
theorem Registers.append {b : Builder} {types more : List TypeExpr} {first last : Logged Builder}
    (hfirst : models.Registers b types first) (hlast : models.Registers first.value more last) :
    models.Registers b (types ++ more) ⟨last.value, first.events ++ last.events⟩ := by
  induction hfirst with
  | nothing => exact hlast
  | through hplain _ ih =>
    rw [List.cons_append]
    refine .through hplain ?_
    rw [← List.append_assoc]
    exact ih hlast
  | again hvisited _ ih => exact .again hvisited (ih hlast)
  | enter hget hnew hinner _ _ ih =>
    rw [List.cons_append, List.append_assoc _ _ last.events]
    exact .enter hget hnew hinner (ih hlast)

/-- Types that are registered one after the other are registered as if they were one list. -/
theorem registers_foldlM (b : Builder) (types : List TypeExpr) :
    models.Registers b types (types.foldlM models.register b) := by
  induction types generalizing b with
  | nil => exact .nothing
  | cons t rest ih =>
    have hfirst : models.Registers b [t] (models.register b t) :=
      registers_registerAll models b [t]
    exact hfirst.append (ih _)

/-- The builder after types are registered in turn, from the beginning on. -/
def registerEach (models : Models) (types : List TypeExpr) : Logged Builder :=
  types.foldlM models.register {}

/-- The registry of types that are registered in turn. -/
def registryOf (models : Models) (types : List TypeExpr) : Logged DocRegistry := do
  let b ← models.registerEach types
  b.build

/-- A name has documentation exactly if the type has its own and is used by what was registered. -/
theorem get?_registryOf_eq_some_iff {types : List TypeExpr} {name : String} {docs : DocMetadata} :
    (models.registryOf types).value.get? name = some docs ↔
      models.ownDocs (.model name) = some docs ∧ ∃ t ∈ types, models.Uses t (.model name) := by
  have hregisters : models.Registers {} types (models.registerEach types) := registers_foldlM _ _
  have haccurate := (hregisters.accurate (accurate_empty models)).1
  have hget : (models.registryOf types).value.get? name =
      if name ∈ (models.registerEach types).value.visited then models.ownDocs (.model name)
      else none := haccurate.get?_eq name
  rw [hget]
  constructor
  · intro h
    split at h
    · next hvisited => exact ⟨h, (hregisters.mem_visited_iff.1 hvisited).2⟩
    · cases h
  · rintro ⟨hdocs, hused⟩
    rw [if_pos (hregisters.mem_visited_iff.2 ⟨isDerived_of_ownDocs hdocs, hused⟩)]
    exact hdocs

/-! ### The objects of a schema -/

variable {t : TypeExpr}

/-- Everything in the graph below a type stands for an expression below it. -/
theorem exists_reaches_of_graph {r : models.Ref t}
    (h : (models.graph t).Reaches (models.root t) r) : ∃ u, models.Reaches t u ∧ Stands r u := by
  induction h with
  | refl => exact ⟨t, Relation.ReflTransGen.refl, stands_root⟩
  | tail _ hs ih =>
    obtain ⟨u, hu, hstands⟩ := ih
    obtain ⟨w, hw, hstands'⟩ := hstands.up hs
    exact ⟨w, hu.trans hw, hstands'⟩

/-- An expression that means a model, absence aside, is a model in wrappers. -/
theorem reaches_model_of_core {u : TypeExpr} {name : String} (h : u.typeRef.core = .named name) :
    models.Reaches u (.model name) := by
  induction u with
  | scalar | map => cases h
  | container c inner ih =>
    cases c with
    | option | box | arc | rc =>
      exact Relation.ReflTransGen.head (List.mem_singleton_self inner) (ih h)
    | vec | vecDeque | slice | hashSet | treeSet | indexSet => cases h
  | model other =>
    cases h
    exact Relation.ReflTransGen.refl

/-- Where all models derive their descriptions, what is reached is used. -/
theorem uses_of_reaches (hderived : ∀ name m, models.get? name = some m →
    ∃ shape docs, m = .derived shape docs) {u : TypeExpr} (h : models.Reaches t u) :
    models.Uses t u := by
  refine Relation.ReflTransGen.mono ?_ _ _ h
  intro v w hw
  cases v with
  | scalar => exact absurd hw List.not_mem_nil
  | container => exact hw
  | map => exact List.mem_cons_of_mem _ hw
  | model name =>
    cases hget : models.get? name with
    | none =>
      simp only [parts, hget] at hw
      exact absurd hw List.not_mem_nil
    | some m =>
      obtain ⟨shape, docs, rfl⟩ := hderived name m hget
      rw [uses_of_derived hget]
      simpa only [parts, hget, Option.map_some, Option.getD_some] using hw

/-- Where all models derive their descriptions, **an object in the graph of a type** has its own
documentation in the registry of the type. -/
theorem get?_registry_of_object (hderived : ∀ name m, models.get? name = some m →
    ∃ shape docs, m = .derived shape docs) {r : models.Ref t}
    (hr : (models.graph t).Reaches (models.root t) r)
    (hobject : ((models.graph t).node r).kind = .object) :
    (models.registry t).value.get? ((models.graph t).identity r) =
      models.ownDocs (.model ((models.graph t).identity r)) := by
  obtain ⟨name, -, hname, -⟩ := Definitions.exists_core_of_object (t := r.1) hobject
  have hkeyed : models.definitions.Keyed := by
    intro other d hd
    rw [get?_definitions] at hd
    obtain ⟨m, hm, rfl⟩ := Option.map_eq_some_iff.1 hd
    obtain ⟨shape, docs, rfl⟩ := hderived other m hm
    rfl
  have hidentity : (models.graph t).identity r = name := by
    show models.definitions.identity r.1 = name
    rw [← Definitions.identity_core, hname, Definitions.identity_named hkeyed]
  obtain ⟨u, hu, hstands⟩ := exists_reaches_of_graph hr
  have hmodel : models.Reaches t (.model name) :=
    hu.trans (reaches_model_of_core (Eq.trans hstands.symm hname))
  have hused : ∃ s ∈ [t], models.Uses s (.model name) :=
    ⟨t, List.mem_singleton_self t, uses_of_reaches hderived hmodel⟩
  rw [hidentity]
  refine Option.ext fun docs => ?_
  show (models.registryOf [t]).value.get? name = some docs ↔ _
  rw [get?_registryOf_eq_some_iff]
  exact and_iff_left hused

/-! ### The registry -/

/-- The entries do not depend on the order of the types. -/
theorem perm_registryOf {types others : List TypeExpr} (h : ∀ t, t ∈ others ↔ t ∈ types) :
    (models.registryOf others).value.entries.entries.Perm
      (models.registryOf types).value.entries.entries := by
  have hnodup : ∀ list : List TypeExpr, (models.registryOf list).value.entries.entries.Nodup :=
    fun list => List.Nodup.of_map _ (models.registryOf list).value.entries.nodup
  have hentry : ∀ (list : List TypeExpr) (name : String) (docs : DocMetadata),
      (name, docs) ∈ (models.registryOf list).value.entries.entries ↔
        models.ownDocs (.model name) = some docs ∧ ∃ t ∈ list, models.Uses t (.model name) := by
    intro list name docs
    rw [← OrderedMap.get?_eq_some_iff]
    exact get?_registryOf_eq_some_iff
  refine (List.perm_ext_iff_of_nodup (hnodup others) (hnodup types)).2 ?_
  rintro ⟨name, docs⟩
  rw [hentry, hentry]
  simp only [h]

/-- **What a registry holds.** Types are registered in turn, in any order and with repetitions. Then
the registry has an entry for each derived model that has documentation and that one of the types
uses, which is the documentation of the model itself, and it has no others. The models that were
entered are the derived ones that are used, each of them once, and nothing was replaced. The order
of the types and their repetitions do not matter to the entries. Therefore, where all models are
derived, every object in the descriptor of a type has its own documentation in the registry of the
type. -/
theorem registry_of_registrations (models : Models) (types : List TypeExpr) :
    let registered := models.registerEach types
    let registry := (models.registryOf types).value
    (∀ name docs, registry.get? name = some docs ↔
        models.ownDocs (.model name) = some docs ∧ ∃ t ∈ types, models.Uses t (.model name)) ∧
      ((∀ name, name ∈ registered.value.visited ↔
          models.IsDerived name ∧ ∃ t ∈ types, models.Uses t (.model name)) ∧
        registered.value.visited.Nodup ∧ registered.events = []) ∧
      (∀ others, (∀ t, t ∈ others ↔ t ∈ types) →
        (models.registryOf others).value.entries.entries.Perm registry.entries.entries) ∧
      ((∀ name m, models.get? name = some m → ∃ shape docs, m = .derived shape docs) →
        ∀ t (r : models.Ref t), (models.graph t).Reaches (models.root t) r →
          ((models.graph t).node r).kind = .object →
            (models.registry t).value.get? ((models.graph t).identity r) =
              models.ownDocs (.model ((models.graph t).identity r))) := by
  intro registered registry
  have hregisters : models.Registers {} types registered := registers_foldlM _ _
  obtain ⟨haccurate, hevents⟩ := hregisters.accurate (accurate_empty models)
  refine ⟨?_, ⟨?_, haccurate.nodup, hevents⟩, ?_, ?_⟩
  · intro name docs
    exact get?_registryOf_eq_some_iff
  · intro name
    exact hregisters.mem_visited_iff
  · intro others hsame
    exact perm_registryOf hsame
  · intro hderived t r hr hobject
    exact get?_registry_of_object hderived hr hobject

/-! ### A grove -/

/-- What is said of trees. -/
def treeDocs : DocMetadata := .ofList (some "A tree") [("children", "What grows on it")]

/-- What is said of seasons. -/
def seasonDocs : DocMetadata := .ofList (some "A season") []

/-- Trees that contain trees and have their heights by season, seasons, and groves with a first
tree, about which nothing is said. -/
def grove : Models where
  entries :=
    { entries :=
        [("app::Tree", .derived (.object
            [{ name := "children", type := .container .vec (.model "app::Tree") },
              { name := "heights", type := .map .treeMap (.model "app::Season") (.scalar .f64) }])
            treeDocs),
          ("app::Season", .derived (.enumeration ["Spring", "Autumn"]) seasonDocs),
          ("app::Grove", .derived (.object
            [{ name := "first",
               type := .container .option (.container .box (.model "app::Tree")) }]) .empty)]
      nodup := by decide }

/-- All types of the example are derived. -/
theorem derived_grove :
    ∀ name m, grove.get? name = some m → ∃ shape docs, m = .derived shape docs := by
  intro name m hget
  have hmem : (name, m) ∈ grove.entries.entries := OrderedMap.mem_of_get? hget
  simp only [grove, List.mem_cons, Prod.mk.injEq, List.not_mem_nil, or_false] at hmem
  rcases hmem with ⟨-, rfl⟩ | ⟨-, rfl⟩ | ⟨-, rfl⟩ <;> exact ⟨_, _, rfl⟩

/-- A tree is used by a grove, inside two wrappers. -/
theorem uses_tree_of_grove : grove.Uses (.model "app::Grove") (.model "app::Tree") := by
  have hfield : grove.Uses (.model "app::Grove")
      (.container .option (.container .box (.model "app::Tree"))) :=
    .single (List.mem_singleton_self _)
  exact (hfield.tail (List.mem_singleton_self _)).tail (List.mem_singleton_self _)

/-- Seasons are found although they are the keys of a map only, two models away. Lists of groves
before and after groves change nothing, and the tree in a grove has its own documentation. -/
theorem registry_of_registrations_grove :
    let groves : TypeExpr := .container .vec (.model "app::Grove")
    (grove.registryOf [.model "app::Grove"]).value.get? "app::Season" = some seasonDocs ∧
      (grove.registerEach [.model "app::Grove"]).events = [] ∧
      ((grove.registryOf [groves, .model "app::Grove", groves]).value.entries.entries.Perm
        (grove.registryOf [.model "app::Grove", groves]).value.entries.entries) ∧
      (grove.registry (.model "app::Grove")).value.get? "app::Tree" = some treeDocs := by
  intro groves
  obtain ⟨hentries, ⟨-, -, hevents⟩, -, hobjects⟩ :=
    registry_of_registrations grove [.model "app::Grove"]
  have hseason : grove.Uses (.model "app::Grove") (.model "app::Season") := by
    have hmap : grove.Uses (.model "app::Grove") (.map .treeMap (.model "app::Season")
        (.scalar .f64)) :=
      uses_tree_of_grove.tail (List.mem_cons_of_mem _ (List.mem_singleton_self _))
    exact hmap.tail List.mem_cons_self
  have hsame : ∀ t, t ∈ [groves, .model "app::Grove", groves] ↔
      t ∈ [.model "app::Grove", groves] := by
    intro t
    simp only [List.mem_cons, List.not_mem_nil, or_false]
    tauto
  let tree : grove.Ref (.model "app::Grove") := ⟨.option (.named "app::Tree"), by decide⟩
  have htree : (grove.graph (.model "app::Grove")).Reaches
      (grove.root (.model "app::Grove")) tree :=
    Graph.Reaches.of_mem_parts (by decide)
  exact ⟨(hentries "app::Season" seasonDocs).2 ⟨rfl, _, List.mem_singleton_self _, hseason⟩,
    hevents, (registry_of_registrations grove [.model "app::Grove", groves]).2.2.1 _ hsame,
    hobjects derived_grove (.model "app::Grove") tree htree rfl⟩

end TypeSchema.Models
