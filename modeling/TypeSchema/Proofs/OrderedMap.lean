import Mathlib
import TypeSchema.OrderedMap

/-!
# Maps in insertion order: what is in them

Which keys and entries a map has, before and after an entry is put in.
-/

namespace TypeSchema

variable {α : Type}

/-- An entry with a new key goes to the end. -/
theorem putEntry_of_not_mem {key : String} {value : α} {entries : List (String × α)}
    (h : key ∉ entries.map Prod.fst) : putEntry key value entries = entries ++ [(key, value)] := by
  induction entries with
  | nil => rfl
  | cons entry rest ih =>
    simp only [List.map_cons, List.mem_cons, not_or] at h
    rw [putEntry, if_neg fun hkey => h.1 hkey.symm, ih h.2, List.cons_append]

/-- A new name goes to the end. -/
theorem addName_of_not_mem {name : String} {names : List String} (h : name ∉ names) :
    addName name names = names ++ [name] := if_neg h

/-- After adding a name there is nothing new but the name. -/
theorem mem_addName_iff {name other : String} {names : List String} :
    other ∈ addName name names ↔ other ∈ names ∨ name = other := by
  unfold addName
  split
  · next hmem =>
    refine ⟨.inl, ?_⟩
    rintro (hother | rfl)
    · exact hother
    · exact hmem
  · rw [List.mem_append, List.mem_singleton, eq_comm]

/-- Names are added in the order in which they come first. -/
theorem foldl_addName (names seen : List String) :
    names.foldl (fun seen name => addName name seen) seen =
      seen ++ (names.filter fun name => name ∉ seen).eraseDups := by
  induction names generalizing seen with
  | nil => simp
  | cons name rest ih =>
    rw [List.foldl_cons, ih]
    by_cases hseen : name ∈ seen
    · have hadd : addName name seen = seen := if_pos hseen
      simp [hadd, hseen]
    · have hfilter : (rest.filter fun other => other ∉ seen ++ [name]) =
          (rest.filter fun other => other ∉ seen).filter fun other => !other == name := by
        rw [List.filter_filter]
        refine List.filter_congr fun other _ => ?_
        by_cases hname : other = name <;> simp [hname, hseen]
      rw [addName_of_not_mem hseen, hfilter, List.filter_cons_of_pos (by simpa using hseen),
        List.eraseDups_cons, List.append_assoc, List.singleton_append]

/-- After putting an entry there is nothing new but the entry. -/
theorem mem_putEntry {key : String} {value : α} {entries : List (String × α)} {entry : String × α}
    (h : entry ∈ putEntry key value entries) : entry = (key, value) ∨ entry ∈ entries := by
  induction entries with
  | nil => exact .inl (List.mem_singleton.1 h)
  | cons first rest ih =>
    unfold putEntry at h
    split at h
    · rcases List.mem_cons.1 h with rfl | hrest
      · exact .inl rfl
      · exact .inr (List.mem_cons_of_mem _ hrest)
    · rcases List.mem_cons.1 h with rfl | hrest
      · exact .inr List.mem_cons_self
      · exact (ih hrest).imp_right (List.mem_cons_of_mem _)

/-- Among entries with distinct keys, the one with a key is found under it. -/
theorem lookup_of_mem {key : String} {value : α} {entries : List (String × α)}
    (hnodup : (entries.map Prod.fst).Nodup) (h : (key, value) ∈ entries) :
    entries.lookup key = some value := by
  obtain ⟨before, after, rfl⟩ := List.append_of_mem h
  refine List.lookup_eq_some_iff.2 ⟨before, after, rfl, fun entry hentry => ?_⟩
  rw [List.map_append, List.nodup_append] at hnodup
  exact bne_iff_ne.2 (hnodup.2.2 _ (List.mem_map_of_mem hentry) _ List.mem_cons_self).symm

/-- The value that was put under a key is found there. -/
@[simp]
theorem lookup_putEntry_self (key : String) (value : α) (entries : List (String × α)) :
    (putEntry key value entries).lookup key = some value := by
  induction entries with
  | nil => exact List.lookup_cons_self
  | cons entry rest ih =>
    by_cases hkey : entry.1 = key
    · rw [putEntry, if_pos hkey]
      exact List.lookup_cons_self
    · rw [putEntry, if_neg hkey, List.lookup_cons, beq_false_of_ne (Ne.symm hkey)]
      exact ih

/-- Under other keys nothing changes. -/
theorem lookup_putEntry_of_ne {key other : String} (h : other ≠ key) (value : α)
    (entries : List (String × α)) :
    (putEntry key value entries).lookup other = entries.lookup other := by
  induction entries with
  | nil => rw [putEntry, List.lookup_cons, beq_false_of_ne h]
  | cons entry rest ih =>
    by_cases hkey : entry.1 = key
    · rw [putEntry, if_pos hkey, List.lookup_cons, List.lookup_cons, hkey, beq_false_of_ne h]
    · rw [putEntry, if_neg hkey, List.lookup_cons, List.lookup_cons, ih]

/-- Changing the values changes what is found. -/
theorem lookup_map {β : Type} (f : String → α → β) (key : String) (entries : List (String × α)) :
    (entries.map fun entry => (entry.1, f entry.1 entry.2)).lookup key =
      (entries.lookup key).map (f key) := by
  induction entries with
  | nil => rfl
  | cons entry rest ih =>
    rw [List.map_cons, List.lookup_cons, List.lookup_cons]
    cases hkey : key == entry.1 with
    | true => rw [← beq_iff_eq.1 hkey]; rfl
    | false => exact ih

namespace OrderedMap

variable {m : OrderedMap α}

/-- What was put in last is found under its key. -/
@[simp]
theorem get?_insert_self (key : String) (value : α) : (m.insert key value).get? key = some value :=
  lookup_putEntry_self key value m.entries

/-- Under another key the same is found as before. -/
theorem get?_insert_of_ne {key other : String} (h : other ≠ key) (value : α) :
    (m.insert key value).get? other = m.get? other :=
  lookup_putEntry_of_ne h value m.entries

/-- What is found under a key are the entries of the key. -/
theorem get?_eq_some_iff {key : String} {value : α} :
    m.get? key = some value ↔ (key, value) ∈ m.entries :=
  ⟨mem_of_get?, lookup_of_mem m.nodup⟩

/-- Maps with the same entries are the same. -/
theorem eq_of_entries {m n : OrderedMap α} (h : m.entries = n.entries) : m = n := by
  cases m
  cases n
  cases h
  rfl

instance [DecidableEq α] : DecidableEq (OrderedMap α) := fun m n =>
  decidable_of_iff (m.entries = n.entries) ⟨eq_of_entries, congrArg entries⟩

/-- Changing the values changes what is found. -/
theorem get?_map {β : Type} (f : α → β) (key : String) :
    (m.map f).get? key = (m.get? key).map f := lookup_map (fun _ => f) key m.entries

/-- The values of a map are what is found under its keys. -/
theorem values_eq (m : OrderedMap α) : m.values = m.keys.filterMap m.get? := by
  have hget : ∀ entry ∈ m.entries, m.get? entry.1 = some entry.2 := fun _ hentry =>
    get?_eq_some_iff.2 hentry
  rw [keys, List.filterMap_map]
  calc m.entries.map Prod.snd
      = m.entries.filterMap fun entry => some entry.2 :=
        (congrFun (List.filterMap_eq_map (f := Prod.snd)) m.entries).symm
    _ = m.entries.filterMap (m.get? ∘ Prod.fst) :=
        List.filterMap_congr fun entry hentry => (hget entry hentry).symm

/-- The keys after an entry is put in. -/
theorem keys_insert (m : OrderedMap α) (key : String) (value : α) :
    (m.insert key value).keys = addName key m.keys := map_fst_putEntry key value m.entries

/-- A map contains its keys. -/
theorem contains_iff_mem_keys {key : String} : m.contains key = true ↔ key ∈ m.keys := by
  rw [contains, get?, List.lookup_isSome_iff, keys, List.mem_map]
  exact exists_congr fun entry => and_congr_right fun _ => beq_iff_eq.trans eq_comm

/-- The keys after an entry is put in are those before, and its own. -/
theorem mem_keys_insert_iff {key other : String} {value : α} :
    other ∈ (m.insert key value).keys ↔ other = key ∨ other ∈ m.keys := by
  show other ∈ (putEntry key value m.entries).map Prod.fst ↔ other = key ∨ other ∈ m.keys
  rw [map_fst_putEntry]
  split
  · next hmem =>
    refine ⟨.inr, fun h => ?_⟩
    rcases h with rfl | h
    · exact hmem
    · exact h
  · rw [List.mem_append, List.mem_singleton, or_comm]
    rfl

/-- What is contained after an entry is put in was before, or is its key. -/
@[simp] theorem contains_insert_iff {key other : String} {value : α} :
    (m.insert key value).contains other = true ↔ other = key ∨ m.contains other = true := by
  rw [contains_iff_mem_keys, contains_iff_mem_keys, mem_keys_insert_iff]

end OrderedMap

end TypeSchema
