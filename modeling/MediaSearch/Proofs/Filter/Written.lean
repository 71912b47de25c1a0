import MediaSearch.Proofs.Filter.Acceptance
import MediaSearch.Text.CamelCase

/-!
# Filters written as objects

A filter is written as an object by putting what its fields hold under their names in camel case.
Reading such an object as a structured filter gives the filter back, in whatever order the entries
stand, if its words are among those that are asked for and it has a type.
-/

set_option autoImplicit false

namespace MediaSearch.Filter

/-- The key of a name: the name in camel case. -/
def keyOf (name : String) : String :=
  String.ofList (Text.camelCase name.toList)

def written (filter : Filter) : Entries :=
  filter.entries.map fun entry => (keyOf entry.1, entry.2.toValue)

theorem mem_written {filter : Filter} {entry : String × Value} :
    entry ∈ filter.written ↔ ∃ field scalar, filter.get field = some scalar ∧
      entry = (keyOf field.name, scalar.toValue) := by
  constructor
  · intro member
    obtain ⟨named, present, rfl⟩ := List.mem_map.mp member
    obtain ⟨field, _, held⟩ := List.mem_filterMap.mp present
    obtain ⟨scalar, set, rfl⟩ := Option.map_eq_some_iff.mp held
    exact ⟨field, scalar, set, rfl⟩
  · rintro ⟨field, scalar, set, rfl⟩
    apply List.mem_map.mpr
    refine ⟨(field.name, scalar), ?_, rfl⟩
    exact List.mem_filterMap.mpr ⟨field, field.mem_all, by rw [set]; rfl⟩

/-- The words of a filter are among those that a structured filter may ask for. -/
structure InVocabulary (filter : Filter) : Prop where
  type : ∀ type ∈ filter.type, type ∈ Vocabulary.mediaTypes
  resolution : ∀ resolution ∈ filter.resolution, resolution ∈ Vocabulary.resolutions
  sort : ∀ field ∈ filter.sort, field ∈ Vocabulary.sortFields
  sortOrder : ∀ order ∈ filter.sortOrder, order ∈ Vocabulary.sortOrders

/-!
## Reading what was written
-/

theorem fieldOfKey?_keyOf (field : Field) : fieldOfKey? (keyOf field.name) = some field := by
  cases field <;> rfl

theorem admitted?_toValue {filter : Filter} (spoken : filter.InVocabulary) {field : Field}
    {scalar : Scalar} (set : filter.get field = some scalar) :
    field.admitted? scalar.toValue = some scalar := by
  cases field <;> obtain ⟨value, held, rfl⟩ := Option.map_eq_some_iff.mp set
  case type =>
    simp [Field.admitted?, Field.kind, Field.choices?, Scalar.toValue, spoken.type value held]
  case resolution =>
    simp [Field.admitted?, Field.kind, Field.choices?, Scalar.toValue, spoken.resolution value held]
  case sort =>
    simp [Field.admitted?, Field.kind, Field.choices?, Scalar.toValue, spoken.sort value held]
  case sortOrder =>
    simp [Field.admitted?, Field.kind, Field.choices?, Scalar.toValue, spoken.sortOrder value held]
  case minRating | maxRating | minMinutes | maxMinutes | addedWithinDays =>
    cases value <;> rfl
  case year | minYear | maxYear | decade | limit | unwatched | watched | inProgress => rfl
  all_goals simp [Field.admitted?, Field.kind, Field.choices?, Scalar.toValue]

/-- Entries write down what fields hold: each field that holds something has it under one of its own
keys, where the field admits it. The order of the entries is left open. -/
structure Writes (entries : Entries) (named : Field → String) (held : Field → Option Scalar) :
    Prop where
  known : ∀ field, fieldOfKey? (named field) = some field
  admitted : ∀ field scalar, held field = some scalar →
    field.admitted? scalar.toValue = some scalar
  mem_iff : ∀ entry, entry ∈ entries ↔ ∃ field scalar, held field = some scalar ∧
    entry = (named field, scalar.toValue)

namespace Writes

variable {entries : Entries} {named : Field → String} {held : Field → Option Scalar}

theorem mem_given_iff (written : Writes entries named held) {field : Field}
    {entry : String × Value} :
    entry ∈ given entries field ↔ ∃ scalar, held field = some scalar ∧
      entry = (named field, scalar.toValue) := by
  rw [mem_given, written.mem_iff]
  constructor
  · rintro ⟨⟨other, scalar, set, rfl⟩, keyed, _⟩
    obtain rfl := Option.some.inj ((written.known other).symm.trans keyed)
    exact ⟨scalar, set, rfl⟩
  · rintro ⟨scalar, set, rfl⟩
    have filled := isNull_of_admitted? (written.admitted field scalar set)
    exact ⟨⟨field, scalar, set, rfl⟩, written.known field, filled⟩

theorem lastGiven?_eq (written : Writes entries named held) (field : Field) :
    lastGiven? entries field = held field := by
  unfold lastGiven?
  cases last : (given entries field).getLast? with
  | none =>
      cases set : held field with
      | none => rfl
      | some scalar =>
          have member := written.mem_given_iff.mpr ⟨scalar, set, rfl⟩
          rw [List.getLast?_eq_none_iff.mp last] at member
          exact absurd member List.not_mem_nil
  | some entry =>
      obtain ⟨scalar, set, rfl⟩ := written.mem_given_iff.mp (List.mem_of_getLast? last)
      rw [set]
      exact written.admitted field scalar set

theorem acceptable (written : Writes entries named held)
    (typed : (held .type).isSome = true) : Acceptable entries := by
  constructor
  · intro entry member
    obtain ⟨field, scalar, _, rfl⟩ := (written.mem_iff entry).mp member
    rw [written.known]
    rfl
  · intro field entry member
    obtain ⟨scalar, set, rfl⟩ := written.mem_given_iff.mp member
    rw [written.admitted field scalar set]
    rfl
  · obtain ⟨scalar, set⟩ := Option.isSome_iff_exists.mp typed
    have member := (written.mem_iff (named .type, scalar.toValue)).mpr ⟨.type, scalar, set, rfl⟩
    rw [eq_type_of_fieldOfKey? (written.known .type)] at member
    exact ⟨scalar.toValue, member, isNull_of_admitted? (written.admitted .type scalar set)⟩

/-- An object with such entries is read as a filter whose fields hold the same. -/
theorem exists_ofValue (written : Writes entries named held)
    (typed : (held .type).isSome = true) (key : String) :
    ∃ filter, ofValue key (.object entries) = .ok filter ∧
      ∀ field, filter.get field = (held field).or (structuredDefault? field) := by
  have acceptable := written.acceptable typed
  obtain ⟨filter, holds, read⟩ := exists_ofValue_of_admitted key acceptable.known acceptable.admitted
  have hasType : filter.type.isNone = false := by
    rw [← written.lastGiven?_eq, ← holds] at typed
    cases set : filter.type with
    | none => simp [get, set] at typed
    | some type => rfl
  refine ⟨filter.withStructuredDefaults, ?_, fun field => ?_⟩
  · rw [read, if_neg (by simp [hasType])]
  · rw [get_withStructuredDefaults, holds, written.lastGiven?_eq]

theorem ofValue_eq (written : Writes entries named held) (typed : (held .type).isSome = true)
    {filter : Filter}
    (holds : ∀ field, filter.get field = (held field).or (structuredDefault? field))
    (key : String) : ofValue key (.object entries) = .ok filter := by
  obtain ⟨found, read, found_holds⟩ := written.exists_ofValue typed key
  obtain rfl : found = filter := ext_get fun field => (found_holds field).trans (holds field).symm
  exact read

end Writes

/-- An object with the entries of a written filter, in any order, is read as the filter. -/
theorem ofValue_written {key : String} {filter : Filter} {entries : Entries}
    (spoken : filter.InVocabulary) (typed : filter.type.isSome = true)
    (same : ∀ entry, entry ∈ entries ↔ entry ∈ filter.written) :
    ofValue key (.object entries) = .ok filter.withStructuredDefaults := by
  have written : Writes entries (fun field => keyOf field.name) filter.get := {
    known := fieldOfKey?_keyOf
    admitted := fun _ _ set => admitted?_toValue spoken set
    mem_iff := fun entry => (same entry).trans mem_written }
  refine written.ofValue_eq ?_ filter.get_withStructuredDefaults key
  rw [get, Option.isSome_map, typed]

end MediaSearch.Filter
