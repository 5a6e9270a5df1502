import Boilerplate.Definition.Document
import Boilerplate.Proofs.Data.Dictionary
import Boilerplate.Proofs.Data.Rows
import Boilerplate.Proofs.Json.RoundTrip

/-! # Definitions as documents

A definition is read back from the document that it is written as, and from the text of that
document if it has no doubles among its numbers. This holds of every definition, valid or not.
-/

namespace Boilerplate

open Json (Format recordMembers? required? optional? asText? asBoolean? asDictionary?)

namespace Dictionary

variable {α : Type}

/-- A dictionary is read back if its values are. -/
theorem asDictionary?_toJson {f : α → Json} {g : Json → Option α} {d : Dictionary α}
    (h : ∀ p ∈ d.entries, g (f p.2) = some p.2) : asDictionary? g (d.toJson f) = some d := by
  have hEntries : (d.entries.map fun p => (p.1, f p.2)).mapM
      (fun p => (g p.2).map fun a => (p.1, a)) = some d.entries := by
    apply mapM_map_eq_some
    intro p hp
    rw [h p hp]
    rfl
  rw [toJson, asDictionary?, hEntries, Option.map_some, ofList_entries]

end Dictionary

section Records

variable {format : Format}

/-- A record is read with the members it is written with: those of its names, in their order, that
are not left out. -/
theorem recordMembers?_object {names : List String} {members : List (String × Json)}
    (hNames : names.Nodup) (h : (members.map (·.1)).Sublist names) :
    recordMembers? format names (.object members) = some members := by
  have hKnown : members.filter (fun p => names.contains p.1) = members := by
    rw [List.filter_eq_self]
    intro p hp
    rw [List.contains_iff_mem]
    exact h.subset (List.mem_map_of_mem hp)
  simp only [recordMembers?, hKnown]
  exact if_pos (hNames.sublist h)

theorem listOfJson?_map {α : Type} {f : α → Json} {g : Json → Option α} {items : List α}
    (h : ∀ a ∈ items, g (f a) = some a) : listOfJson? g (.array (items.map f)) = some items :=
  mapM_map_eq_some h

theorem Value.ofJson?_toJson (v : Value) : ofJson? v.toJson = some v := by
  cases v with
  | list items =>
    have hItems : (items.map Json.text).mapM asText? = some items :=
      mapM_map_eq_some fun _ _ => rfl
    rw [toJson, Json.ofTexts, ofJson?, hItems, Option.map_some]
  | boolean b => rfl
  | number n => rfl
  | text s => rfl

/-- No value is written as `null`. -/
theorem nullable?_toJson (v : Value) : nullable? Value.ofJson? v.toJson = some (some v) := by
  rw [nullable?, Value.ofJson?_toJson, Option.map_some]
  cases v <;> simp [Value.toJson, Json.ofTexts]

theorem configOfJson?_configToJson (c : Config) : configOfJson? (configToJson c) = some c :=
  Dictionary.asDictionary?_toJson fun p _ => Value.ofJson?_toJson p.2

theorem Kind.ofJson?_name (format : Format) (k : Kind) :
    ofJson? format (.text k.name) = some k := by
  cases k <;> rfl

theorem FieldOption.ofJson?_toJson (o : FieldOption) : ofJson? format o.toJson = some o := by
  rw [ofJson?, toJson, recordMembers?_object (by decide) (by simp)]
  rfl

theorem FileTemplate.ofJson?_toJson (f : FileTemplate) : ofJson? format f.toJson = some f := by
  rw [ofJson?, toJson, recordMembers?_object (by decide) (by simp)]
  rfl

namespace Field

variable (f : Field)

/-- The members that a field is written with. -/
def members : List (String × Json) :=
  [("name", .text f.name), ("label", .text f.label), ("type", .text f.kind.name),
    ("required", .boolean f.required)]
  ++ (match f.default with
    | some v => [("default", v.toJson)]
    | none => [])
  ++ [("description", .text f.description)]
  ++ (if f.options.isEmpty then [] else [("options", .array (f.options.map (·.toJson)))])

theorem sublist_names : (f.members.map (·.1)).Sublist memberNames := by
  obtain ⟨_, _, _, _, default, _, options⟩ := f
  cases default <;> cases options <;> simp [members, memberNames]

theorem lookup_default : f.members.lookup "default" = f.default.map Value.toJson := by
  obtain ⟨_, _, _, _, default, _, options⟩ := f
  cases default <;> cases options <;> rfl

theorem lookup_description : f.members.lookup "description" = some (.text f.description) := by
  obtain ⟨_, _, _, _, default, _, options⟩ := f
  cases default <;> cases options <;> rfl

theorem lookup_options : f.members.lookup "options" =
    if f.options.isEmpty then none else some (.array (f.options.map (·.toJson))) := by
  obtain ⟨_, _, _, _, default, _, options⟩ := f
  cases default <;> cases options <;> rfl

theorem ofJson?_toJson : ofJson? format f.toJson = some f := by
  have hMembers : f.toJson = .object f.members := rfl
  have hDefault : optional? f.members "default" none (nullable? Value.ofJson?)
      = some f.default := by
    rw [optional?, lookup_default]
    cases f.default with
    | none => rfl
    | some v => exact nullable?_toJson v
  have hDescription : optional? f.members "description" "" asText? = some f.description := by
    rw [optional?, lookup_description]
    rfl
  have hOptions : optional? f.members "options" [] (listOfJson? (FieldOption.ofJson? format))
      = some f.options := by
    rw [optional?, lookup_options]
    cases hEmpty : f.options with
    | nil => rfl
    | cons o rest => exact listOfJson?_map fun a _ => FieldOption.ofJson?_toJson a
  have hKind : required? f.members "type" (Kind.ofJson? format) = some f.kind :=
    Kind.ofJson?_name format f.kind
  rw [ofJson?, hMembers, recordMembers?_object (by decide) f.sublist_names]
  simp only [Option.bind_eq_bind, Option.bind_some, hDefault, hDescription, hOptions, hKind]
  rfl

end Field

namespace Definition

variable (d : Definition)

/-- A definition is read back from its document, in either format. -/
theorem ofJson?_toJson : ofJson? format d.toJson = some d := by
  have hFiles : listOfJson? (FileTemplate.ofJson? format) (.array (d.files.map (·.toJson)))
      = some d.files :=
    listOfJson?_map fun f _ => f.ofJson?_toJson
  have hFields : listOfJson? (Field.ofJson? format) (.array (d.fields.map (·.toJson)))
      = some d.fields :=
    listOfJson?_map fun f _ => f.ofJson?_toJson
  have hExamples : asDictionary? configOfJson? (examplesToJson d.examples) = some d.examples :=
    Dictionary.asDictionary?_toJson fun p _ => configOfJson?_configToJson p.2
  rw [ofJson?, toJson, recordMembers?_object (by decide) (by simp [memberNames])]
  simp [required?, optional?, List.lookup_cons, asText?, hFiles, hFields, hExamples]

end Definition

end Records

section Numbers

open Json (IsExact)

theorem isExact_map {α : Type} {f : α → Json} {items : List α} (h : ∀ a ∈ items, (f a).IsExact) :
    (Json.array (items.map f)).IsExact :=
  .array (List.forall_mem_map.mpr h)

theorem Dictionary.isExact_toJson {α : Type} {f : α → Json} {d : Dictionary α}
    (h : ∀ p ∈ d.entries, (f p.2).IsExact) : (d.toJson f).IsExact :=
  .object (List.forall_mem_map.mpr h)

/-- A value that is no double. -/
def Value.IsExact : Value → Prop
  | .number (.float _) => False
  | _ => True

instance : DecidablePred Value.IsExact
  | .boolean _ => .isTrue trivial
  | .number (.integer _ _) => .isTrue trivial
  | .number (.float _) => .isFalse id
  | .text _ => .isTrue trivial
  | .list _ => .isTrue trivial

theorem Value.isExact_toJson {v : Value} (h : v.IsExact) : v.toJson.IsExact := by
  match v with
  | .boolean b => exact .boolean b
  | .number (.integer n inRange) => exact .integer n inRange
  | .number (.float x) => exact h.elim
  | .text s => exact .text s
  | .list items => exact isExact_map fun s _ => .text s

theorem FieldOption.isExact_toJson (o : FieldOption) : o.toJson.IsExact := by
  apply IsExact.object
  simp [IsExact.text]

theorem FileTemplate.isExact_toJson (f : FileTemplate) : f.toJson.IsExact := by
  apply IsExact.object
  simp [IsExact.text]

theorem Field.isExact_toJson {f : Field} (h : ∀ v ∈ f.default, v.IsExact) : f.toJson.IsExact := by
  have hOptions : (Json.array (f.options.map (·.toJson))).IsExact :=
    isExact_map fun o _ => o.isExact_toJson
  apply IsExact.object
  simp only [List.forall_mem_append, List.forall_mem_cons]
  refine ⟨⟨⟨⟨.text _, .text _, .text _, .boolean _, List.forall_mem_nil _⟩, ?_⟩, .text _,
    List.forall_mem_nil _⟩, ?_⟩
  · split
    next v hDefault => exact List.forall_mem_singleton.mpr (Value.isExact_toJson (h v hDefault))
    next => exact List.forall_mem_nil _
  · split
    next => exact List.forall_mem_nil _
    next => exact List.forall_mem_singleton.mpr hOptions

namespace Definition

/-- A definition without doubles: its fields have none as a default, its examples none as a value.
-/
structure IsExact (d : Definition) : Prop where
  defaults : ∀ f ∈ d.fields, ∀ v ∈ f.default, v.IsExact
  examples : ∀ e ∈ d.examples.entries, ∀ p ∈ e.2.entries, p.2.IsExact

theorem IsExact.toJson {d : Definition} (h : d.IsExact) : d.toJson.IsExact := by
  have hFiles : (Json.array (d.files.map (·.toJson))).IsExact :=
    isExact_map fun f _ => f.isExact_toJson
  have hFields : (Json.array (d.fields.map (·.toJson))).IsExact :=
    isExact_map fun f hf => Field.isExact_toJson (h.defaults f hf)
  have hExamples : (examplesToJson d.examples).IsExact :=
    Dictionary.isExact_toJson fun e he =>
      Dictionary.isExact_toJson fun p hp => Value.isExact_toJson (h.examples e he p hp)
  apply Json.IsExact.object
  simp [Json.IsExact.text, hFiles, hFields, hExamples]

/-- A definition without doubles is read back from its JSON text. -/
theorem parse?_compact_toJson {d : Definition} (h : d.IsExact) :
    (Json.parse? (Json.compact d.toJson).toList).bind (ofJson? .json) = some d := by
  rw [Json.parse?_compact h.toJson, Option.bind_some, ofJson?_toJson]

/-- Both ends of the integers, a text with characters of every kind of escape, names that are not
identifiers, and fields with and without a default and options. -/
theorem parse?_compact_toJson_extremes :
    let text := "\"\\/\n\t\x00\x1f\x7f é 😀"
    let least : Value := .number (.integer (-0x8000000000000000) (by decide))
    let greatest : Value := .number (.integer 0xffffffffffffffff (by decide))
    let d : Definition := ⟨"", text, "", "c", "", [⟨"f", "../f", text, ""⟩, ⟨"", "", "", "yaml"⟩],
      [⟨"not a name", "", .number, true, some least, text, []⟩,
        ⟨"k", "K", .multiSelect, false, some (.list [text, ""]), "", [⟨text, "a"⟩, ⟨"", ""⟩]⟩,
        ⟨"k", "K", .select, false, none, "", []⟩],
      .ofList [(text, .ofList [("b", greatest), ("a", .text text), ("", .boolean false)]),
        ("", ∅)]⟩
    d.IsExact ∧ (Json.parse? (Json.compact d.toJson).toList).bind (ofJson? .json) = some d := by
  intro text least greatest d
  have hExact : d.IsExact := by
    constructor
    · simp [d, least, Value.IsExact]
    · decide +kernel
  exact ⟨hExact, parse?_compact_toJson hExact⟩

end Definition

end Numbers

end Boilerplate
