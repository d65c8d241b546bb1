import Mathlib
import TypeSchema.Command.Run

/-!
# What is wrong with a manifest, and where it lies

The values of a manifest are looked at after its paths are seen from the directory it lies in. A
relative path that is seen from a directory is no longer empty, and so a source without a path is
found in the directory of the run only.

* `join_eq_empty_iff` says which paths are empty once they are seen from a directory.
* `FillsSource` is the exception, and `defect?_resolve_eq_iff` says that there is no other: elsewhere a
  manifest has **the same defect in every directory**.
* `run_loadManifest`: whatever the surroundings, loading comes to the `verdict` on what is read.
* `load_rejects_iff` puts them together, and `load_of_filled_source` shows the exception.
-/

namespace TypeSchema

/-! ### Paths -/

namespace FilePath

/-- A path that is seen from a directory is empty if both are. -/
theorem join_eq_empty_iff {base path : String} : join base path = "" ↔ path = "" ∧ base = "" := by
  unfold join
  split
  · next h =>
    rw [Bool.or_eq_true] at h
    refine ⟨fun hpath => ⟨hpath, ?_⟩, And.left⟩
    subst hpath
    rcases h with habsolute | hempty
    · exact absurd habsolute (by decide)
    · exact String.isEmpty_iff.1 hempty
  · next h =>
    have hbase : base ≠ "" := fun hempty => h (by simp [hempty])
    refine iff_of_false (fun hjoined => hbase ?_) (fun hboth => hbase hboth.2)
    split at hjoined
    · exact (String.append_eq_empty_iff.1 hjoined).1
    · exact (String.append_eq_empty_iff.1 (String.append_eq_empty_iff.1 hjoined).1).1

end FilePath

namespace Manifest

variable {m : Manifest} {base : String}

/-! ### Defects -/

/-- Is anything wrong with the values: no depth, a source without a path, or a type without a name? -/
def Faulty (m : Manifest) : Prop :=
  m.maxDepth = some 0 ∨ "" ∈ m.sources ∨ ∃ name ∈ m.types, Text.isAllBlank name = true

/-- Does the directory give a path to a source that has none, and that would be reported for it? -/
def FillsSource (m : Manifest) (base : String) : Prop :=
  base ≠ "" ∧ m.maxDepth ≠ some 0 ∧ "" ∈ m.sources

/-- One of the texts is empty exactly if the empty text is among them. -/
@[simp] theorem any_isEmpty_iff {texts : List String} :
    texts.any String.isEmpty = true ↔ "" ∈ texts := by
  simp [List.any_eq_true, String.isEmpty_iff]

/-- **A manifest has a defect if and only if something is wrong with it.** -/
theorem isSome_defect?_iff : m.defect?.isSome = true ↔ m.Faulty := by
  unfold defect? Faulty
  rw [← any_isEmpty_iff, ← List.any_eq_true]
  by_cases hdepth : m.maxDepth = some 0 <;> by_cases hsource : m.sources.any String.isEmpty = true <;>
    by_cases htype : m.types.any Text.isAllBlank = true <;> simp [hdepth, hsource, htype]

/-- A source is still without a path, seen from a directory, if the directory has no path either. -/
theorem mem_sources_resolve_iff : "" ∈ (m.resolve base).sources ↔ "" ∈ m.sources ∧ base = "" := by
  show "" ∈ m.sources.map (FilePath.join base) ↔ _
  simp only [List.mem_map, FilePath.join_eq_empty_iff]
  constructor
  · rintro ⟨path, hpath, rfl, hbase⟩
    exact ⟨hpath, hbase⟩
  · rintro ⟨hpath, hbase⟩
    exact ⟨"", hpath, rfl, hbase⟩

/-- The defect after the paths are seen from a directory: a source is reported only if the directory
has no path. -/
theorem defect?_resolve : (m.resolve base).defect? =
    if m.maxDepth = some 0 then some .zeroDepth
    else if "" ∈ m.sources ∧ base = "" then some .emptySource
    else if m.types.any Text.isAllBlank then some .blankType
    else none := by
  simp only [defect?, any_isEmpty_iff, mem_sources_resolve_iff]
  rfl

/-- **A manifest has the same defect in every directory** that does not fill in a source. -/
theorem defect?_resolve_eq_iff : (m.resolve base).defect? = m.defect? ↔ ¬ m.FillsSource base := by
  rw [defect?_resolve, defect?]
  simp only [any_isEmpty_iff, FillsSource]
  by_cases hdepth : m.maxDepth = some 0
  · simp [hdepth]
  by_cases hsource : "" ∈ m.sources
  · by_cases hbase : base = ""
    · simp [hdepth, hsource, hbase]
    · by_cases htype : m.types.any Text.isAllBlank = true <;> simp [hdepth, hsource, hbase, htype]
  · simp [hdepth, hsource]

end Manifest

/-! ### Loading -/

namespace Command

open Manifest

/-- The manifest as it is seen from the directory of its file. -/
def located (path : String) (m : Manifest) : Manifest :=
  match FilePath.parent? path with
  | some base => m.resolve base
  | none => m

/-- What comes of the content of a manifest file, if it has any. -/
def verdict (path : String) : Option String → Except RunError Manifest
  | none => .error (.unreadManifest path)
  | some text =>
    match Manifest.ofText? text with
    | none => .error (.malformedManifest path)
    | some m =>
      match (located path m).defect? with
      | some defect => .error (.manifest defect)
      | none => .ok (located path m)

section

variable {M : Type → Type} [Monad M] [LawfulMonad M] (system : System M)

/-- What a run does with a verdict: a manifest that is accepted is noted. -/
def heed (path : String) : Except RunError Manifest → M (Except RunError (Option Manifest))
  | .error e => pure (.error e)
  | .ok m => do
    system.log (.manifestLoaded path m.sources.length)
    return .ok (some m)

/-- **Loading comes to the verdict** on what is read, in any surroundings. -/
theorem run_loadManifest (path : String) :
    (loadManifest system (some path)).run = system.read path >>= fun content =>
      heed system path (verdict path content) := by
  simp only [loadManifest, readManifest, ExceptT.run_bind, ExceptT.run_monadLift, monadLift_self,
    bind_map_left, bind_assoc]
  refine bind_congr fun content => ?_
  cases content with
  | none => simp [verdict, heed]
  | some text =>
    simp only [verdict]
    cases hm : Manifest.ofText? text with
    | none => simp [heed]
    | some m =>
      unfold located
      cases FilePath.parent? path with
      | none => cases hdefect : m.defect? <;> simp [heed, hdefect, -bind_pure_comp]
      | some base => cases hdefect : (m.resolve base).defect? <;> simp [heed, hdefect, -bind_pure_comp]

end

/-- The directory of the run fills in nothing. -/
theorem not_fillsSource_of_usual (m : Manifest) :
    ∀ base ∈ FilePath.parent? defaultName, ¬ m.FillsSource base := by
  have hparent : FilePath.parent? defaultName = some "" := by decide
  intro base hbase hfills
  rw [hparent, Option.mem_some_iff] at hbase
  exact hfills.1 hbase.symm

/-- **A manifest is judged by what is written in it, not by where it lies.** Seen from a directory it
has the defect that it has as it is written, unless the directory fills in a source without a path.
Elsewhere, loading a file that is a manifest fails if and only if something is wrong with the manifest
as it is written, and then with the defect that it has as it is written. -/
theorem load_rejects_iff {m : Manifest} {path text : String} (hm : Manifest.ofText? text = some m)
    (hplain : ∀ base ∈ FilePath.parent? path, ¬ m.FillsSource base) :
    (∀ base, (m.resolve base).defect? = m.defect? ↔ ¬ m.FillsSource base) ∧
      ((∃ e, verdict path (some text) = .error e) ↔ m.Faulty) ∧
      (verdict path (some text) = match m.defect? with
        | some defect => .error (.manifest defect)
        | none => .ok (located path m)) ∧
      ∀ (M : Type → Type) [Monad M] [LawfulMonad M] (system : System M),
        (loadManifest system (some path)).run = system.read path >>= fun content =>
          heed system path (verdict path content) := by
  have hdefect : (located path m).defect? = m.defect? := by
    unfold located
    cases hparent : FilePath.parent? path with
    | none => rfl
    | some base => exact defect?_resolve_eq_iff.2 (hplain base hparent)
  have hverdict : verdict path (some text) = match m.defect? with
      | some defect => .error (.manifest defect)
      | none => .ok (located path m) := by
    simp only [verdict, hm, hdefect]
  refine ⟨fun base => defect?_resolve_eq_iff, ?_, hverdict, fun M _ _ system =>
    run_loadManifest system path⟩
  rw [← isSome_defect?_iff, hverdict]
  cases m.defect? <;> simp

/-- A type without a name is found in any directory, and a source without a path in that of the
run. -/
theorem load_rejects_iff_usual :
    (∃ e, verdict "m/koja.toml" (some "[schema]\nsources = [\"a.rs\"]\ntypes = [\" \"]\n") =
        .error e) ∧
      verdict defaultName (some "[schema]\nsources = [\"\"]\n") = .error (.manifest .emptySource) := by
  have htype : Manifest.ofText? "[schema]\nsources = [\"a.rs\"]\ntypes = [\" \"]\n" =
      some { sources := ["a.rs"], types := [" "] } := by cbv
  have hsource : Manifest.ofText? "[schema]\nsources = [\"\"]\n" = some { sources := [""] } := by cbv
  constructor
  · refine (load_rejects_iff htype fun base _ hfills => ?_).2.1.2 (.inr (.inr ⟨" ", by simp, by decide⟩))
    exact absurd hfills.2.2 (by decide)
  · exact (load_rejects_iff hsource (not_fillsSource_of_usual _)).2.2.1

/-- A source without a path is lost in another directory: the manifest is accepted, and its source is
the directory. -/
theorem load_of_filled_source :
    Manifest.ofText? "[schema]\nsources = [\"\"]\n" = some { sources := [""] } ∧
      ({ sources := [""] } : Manifest).defect? = some .emptySource ∧
      verdict "m/koja.toml" (some "[schema]\nsources = [\"\"]\n") = .ok { sources := ["m/"] } :=
  ⟨by cbv, by decide, by cbv⟩

end Command

end TypeSchema
