import Mathlib
import TypeSchema.Schema

/-!
# Reading schemas back

A schema leaves parts out of its JSON form: a description that it does not have, properties of which
nothing is said, an empty list of required names. Objects, maps and values of open shape share a type
name. Still nothing is lost: each part that is there has a member of its own, and the members that are
missing say what is missing.

* `ofJson?` reads a schema from a JSON value, its members by name.
* `readMembers?_headMembers`, `readMembers?_requiredMember` and the like: what is written for one part
  sets that part and no other, whatever members follow.
* `ofJson?_toJson` puts them together, by induction on the schema.
* `toJson_faithful`: **the JSON form determines the schema.**
-/

namespace TypeSchema.Schema

/-! ### Reading -/

/-- What the members of a JSON object say of a schema. -/
structure Parts where
  /-- The name of its type. -/
  typeName : Option String := none
  /-- Its description. -/
  description : Option String := none
  /-- Its properties. -/
  properties : Option (List (String × Schema)) := none
  /-- The names that are required. -/
  required : List String := []
  /-- What other properties must be. -/
  additional : Option Schema := none
  /-- The texts of an enumeration. -/
  values : Option (List String) := none
  /-- What items must be. -/
  items : Option Schema := none

/-- The schema of the type that is named, from the parts that the type has. -/
def Parts.schema? (parts : Parts) : Option Schema := do
  let name ← parts.typeName
  if name = "object" then
    return .object parts.description parts.properties parts.required parts.additional
  else if name = "string" then return .string parts.description parts.values
  else if name = "number" then return .number parts.description
  else if name = "boolean" then return .boolean parts.description
  else if name = "array" then return .array parts.description (← parts.items)
  else none

/-- Reads a text. -/
def text? : Json → Option String
  | .string text => some text
  | _ => none

/-- Reads a list of texts. -/
def texts? : Json → Option (List String)
  | .array items => items.mapM text?
  | _ => none

mutual

/-- Reads a schema. -/
def ofJson? : Json → Option Schema
  | .object members => (readMembers? members).bind Parts.schema?
  | _ => none

/-- Reads the members of a schema by name; those of other names say nothing. -/
def readMembers? : List (String × Json) → Option Parts
  | [] => some {}
  | (name, value) :: rest => do
    let parts ← readMembers? rest
    if name = "type" then return { parts with typeName := some (← text? value) }
    else if name = "description" then return { parts with description := some (← text? value) }
    else if name = "properties" then return { parts with properties := some (← readProperties? value) }
    else if name = "required" then return { parts with required := ← texts? value }
    else if name = "additionalProperties" then return { parts with additional := some (← ofJson? value) }
    else if name = "enum" then return { parts with values := some (← texts? value) }
    else if name = "items" then return { parts with items := some (← ofJson? value) }
    else return parts

/-- Reads the properties of an object. -/
def readProperties? : Json → Option (List (String × Schema))
  | .object members => readNamed? members
  | _ => none

/-- Reads named schemas. -/
def readNamed? : List (String × Json) → Option (List (String × Schema))
  | [] => some []
  | (name, value) :: rest => do return (name, ← ofJson? value) :: (← readNamed? rest)

end

/-! ### What is written for one part -/

/-- Texts are read back from strings. -/
@[simp] theorem texts?_strings (texts : List String) : texts? (.strings texts) = some texts := by
  show (texts.map Json.string).mapM text? = some texts
  have htext : text? ∘ Json.string = fun text => pure text := rfl
  rw [List.mapM_map, htext, List.mapM_pure, List.map_id']
  rfl

variable {members : List (String × Json)} {parts : Parts}

/-- The first members set the type and the description. -/
theorem readMembers?_headMembers (name : String) (d : Option String)
    (h : readMembers? members = some parts) (hnone : parts.description = none) :
    readMembers? (headMembers name d ++ members) =
      some { parts with typeName := some name, description := d } := by
  cases d with
  -- Where there is no description nothing is written for it, and so the rest must not set it either.
  | none => simp [headMembers, readMembers?, h, text?, ← hnone]
  | some text => simp [headMembers, readMembers?, h, text?]

/-- A schema may have no other members. -/
@[simp] theorem readMembers?_headMembers_alone (name : String) (d : Option String) :
    readMembers? (headMembers name d) = some { typeName := some name, description := d } := by
  have hread : readMembers? [] = some {} := rfl
  have hhead := readMembers?_headMembers name d hread rfl
  rwa [List.append_nil] at hhead

/-- The member for required names sets them. Without names there is no such member. -/
theorem readMembers?_requiredMember (names : List String)
    (h : readMembers? members = some parts) (hnil : parts.required = []) :
    readMembers? (requiredMember names ++ members) = some { parts with required := names } := by
  cases names with
  | nil => simp [requiredMember, h, ← hnil]
  | cons name rest => simp [requiredMember, readMembers?, h]

/-- The member for an enumeration sets its texts. -/
@[simp] theorem readMembers?_enumMember (values : Option (List String)) :
    readMembers? (enumMember values) = some { values } := by
  cases values with
  | none => rfl
  | some values => simp [enumMember, readMembers?]

/-! ### Whole schemas -/

mutual

/-- **A schema is read back** from its JSON form. -/
theorem ofJson?_toJson : (schema : Schema) → ofJson? schema.toJson = some schema
  | .object d properties required additional => by
    have hadditional := readMembers?_additionalMember additional
    have hrequired := readMembers?_requiredMember required hadditional rfl
    have hproperties := readMembers?_propertiesMember properties hrequired rfl
    have hhead := readMembers?_headMembers "object" d hproperties rfl
    simp only [toJson, ofJson?, List.append_assoc, hhead]
    rfl
  | .string d values => by
    have hhead := readMembers?_headMembers "string" d (readMembers?_enumMember values) rfl
    simp only [toJson, ofJson?, hhead]
    rfl
  | .number d => by
    simp only [toJson, ofJson?, readMembers?_headMembers_alone]
    rfl
  | .boolean d => by
    simp only [toJson, ofJson?, readMembers?_headMembers_alone]
    rfl
  | .array d items => by
    have hitems : readMembers? [("items", items.toJson)] = some { items := some items } := by
      simp [readMembers?, ofJson?_toJson items]
    have hhead := readMembers?_headMembers "array" d hitems rfl
    simp only [toJson, ofJson?, hhead]
    rfl

/-- The member for properties sets the properties. -/
theorem readMembers?_propertiesMember : (properties : Option (List (String × Schema))) →
    {members : List (String × Json)} → {parts : Parts} →
    readMembers? members = some parts → parts.properties = none →
      readMembers? (propertiesMember properties ++ members) = some { parts with properties }
  | none, _, _, h, hnone => by
    rw [propertiesMember, List.nil_append, h, ← hnone]
  | some properties, _, _, h, _ => by
    simp [propertiesMember, readMembers?, readProperties?, h, readNamed?_namedJson properties]

/-- The member for other properties sets what they must be. -/
theorem readMembers?_additionalMember : (additional : Option Schema) →
    readMembers? (additionalMember additional) = some { additional }
  | none => rfl
  | some value => by
    simp [additionalMember, readMembers?, ofJson?_toJson value]

/-- Named schemas are read back. -/
theorem readNamed?_namedJson : (entries : List (String × Schema)) →
    readNamed? (namedJson entries) = some entries
  | [] => rfl
  | (name, schema) :: rest => by
    simp [namedJson, readNamed?, ofJson?_toJson schema, readNamed?_namedJson rest]

end

/-- **The JSON form determines the schema.** Every schema is read back from its JSON form, so that two
schemas have the same form, with members in the same order, only if they are the same. -/
theorem toJson_faithful :
    (∀ schema : Schema, ofJson? schema.toJson = some schema) ∧
      ∀ schema other : Schema, schema.toJson = other.toJson ↔ schema = other := by
  refine ⟨ofJson?_toJson, fun schema other => ⟨fun h => ?_, congrArg toJson⟩⟩
  have hread := congrArg ofJson? h
  rw [ofJson?_toJson, ofJson?_toJson, Option.some.injEq] at hread
  exact hread

end TypeSchema.Schema
