import TypeSchema.Proofs.Doc.Comments
import TypeSchema.Registry

/-!
# The fields that documentation speaks of

Documentation has texts for fields of its type only. For the comment of the type this follows from its
grammar (`mem_of_parse`), for the comments of fields from what they add (`mem_of_addFieldDocs`).
-/

namespace TypeSchema

deriving instance DecidableEq for DocMetadata

deriving instance DecidableEq for DocRegistry

namespace Doc

variable {known : List String} {name : String}

/-- What segments speak of is known if they are complete. -/
theorem mem_known_of_mem_names {later : List Segment}
    (hcomplete : ∀ segment ∈ later, segment.Complete known) (hname : name ∈ names later) :
    name ∈ known := by
  obtain ⟨entry, hentry, rfl⟩ := List.mem_map.1 hname
  obtain ⟨segment, hsegment, hentry⟩ := List.mem_filterMap.1 hentry
  obtain ⟨-, -, -, -, hknown⟩ := (hcomplete segment hsegment).body_eq hentry
  exact hknown

/-- The comment of a type has texts for known fields only. -/
theorem mem_of_parse {text : String} {doc : DocMetadata} (h : parse text known = .ok doc)
    (hname : doc.fields.contains name = true) : name ∈ known := by
  obtain ⟨-, haccepts, -, hentries⟩ := (parse_eq_ok_iff rfl rfl).1 h
  have hkeys : doc.fields.keys = names _ := congrArg (List.map Prod.fst) hentries
  rw [OrderedMap.contains_iff_mem_keys, hkeys] at hname
  exact mem_known_of_mem_names haccepts.complete hname

/-! ### Comments of fields -/

/-- The comments of fields add texts for these fields only. -/
theorem mem_of_addFieldDocs {doc after : DocMetadata} {comments : List (String × Option String)}
    (h : addFieldDocs doc comments = .ok after) (hname : after.fields.contains name = true) :
    doc.fields.contains name = true ∨ name ∈ comments.map Prod.fst := by
  obtain ⟨-, -, hentries⟩ := addFieldDocs_eq_ok_iff.1 h
  rw [OrderedMap.contains_iff_mem_keys, OrderedMap.keys, hentries, List.map_append,
    List.mem_append] at hname
  rw [OrderedMap.contains_iff_mem_keys]
  exact hname.imp_right fun hown => ownNames_subset comments hown

/-- **Documentation has texts for fields of its type only.** -/
theorem mem_of_metadata {comment : Option String} {fields : List (String × Option String)}
    {doc : DocMetadata} (h : metadata comment fields = .ok doc)
    (hname : doc.fields.contains name = true) : name ∈ fields.map Prod.fst := by
  unfold metadata at h
  split at h
  · exact (mem_of_addFieldDocs h hname).resolve_left nofun
  split at h
  · cases h
  next doc hdoc => exact (mem_of_addFieldDocs h hname).elim (mem_of_parse hdoc) id

end Doc

end TypeSchema
