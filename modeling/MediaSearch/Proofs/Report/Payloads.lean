import MediaSearch.Proofs.Json.Document
import MediaSearch.Proofs.Query.Form
import MediaSearch.Proofs.Record.Listing
import MediaSearch.Report

/-!
# Payloads as data

What is written of filters, queries and outcomes is data. Its numbers are finite if those of the
filters and the ratings of the records are, and only then: nothing else in a payload is a floating
point number.
-/

set_option autoImplicit false

namespace MediaSearch

theorem forall_mem_toList_map {α β : Type} {value : Option α} {change : α → β} {holds : β → Prop} :
    (∀ item ∈ (value.map change).toList, holds item) ↔ ∀ item ∈ value, holds (change item) := by
  cases value <;> simp

/-!
## Scalars
-/

namespace Scalar

/-- No infinity, and nothing that is not a number. -/
def IsFinite : Scalar → Prop
  | .number (.real value) => value.IsFinite
  | _ => True

instance : DecidablePred IsFinite
  | .number (.real value) => inferInstanceAs (Decidable value.IsFinite)
  | .number (.int _) | .null | .bool _ | .text _ => .isTrue trivial

theorem isData_toValue (scalar : Scalar) : scalar.toValue.IsData := by
  cases scalar with
  | null => exact .null
  | bool value => exact .bool value
  | number value =>
      cases value with
      | int value => exact .int value
      | real value => exact .real value
  | text value => exact .text value

theorem allFinite_toValue_iff (scalar : Scalar) : scalar.toValue.AllFinite ↔ scalar.IsFinite := by
  cases scalar with
  | number value =>
      cases value with
      | int value => exact iff_of_true (Value.allFinite_int value) trivial
      | real value => exact Value.allFinite_real_iff
  | null => exact iff_of_true Value.allFinite_null trivial
  | bool value => exact iff_of_true (Value.allFinite_bool value) trivial
  | text value => exact iff_of_true (Value.allFinite_text value) trivial

variable {scalars : List NamedScalar}

theorem isData_objectOf (distinct : (scalars.map (·.1)).Nodup) : (objectOf scalars).IsData := by
  refine .object ?_ ?_
  · rwa [List.map_map]
  · exact List.forall_mem_map.mpr fun named _ => named.2.isData_toValue

theorem allFinite_objectOf_iff :
    (objectOf scalars).AllFinite ↔ ∀ named ∈ scalars, named.2.IsFinite := by
  rw [objectOf, Value.allFinite_object_iff, List.forall_mem_map]
  simp only [allFinite_toValue_iff]

theorem isFinite_of_mem_map_text {value : Option String} :
    ∀ scalar ∈ value.map Scalar.text, scalar.IsFinite := by
  cases value <;> simp [IsFinite]

theorem isFinite_of_mem_map_int {value : Option Int} :
    ∀ scalar ∈ value.map Scalar.int, scalar.IsFinite := by
  cases value <;> simp [IsFinite, Scalar.int]

theorem isFinite_of_mem_map_bool {value : Option Bool} :
    ∀ scalar ∈ value.map Scalar.bool, scalar.IsFinite := by
  cases value <;> simp [IsFinite]

theorem forall_mem_map_real_isFinite_iff (value : Option Binary64) :
    (∀ scalar ∈ value.map fun number => Scalar.number (.real number), scalar.IsFinite) ↔
      ∀ number ∈ value, number.IsFinite := by
  cases value <;> simp [IsFinite]

end Scalar

/-!
## Filters
-/

namespace Filter

def IsFinite (filter : Filter) : Prop :=
  ∀ field, ∀ scalar ∈ filter.get field, scalar.IsFinite

instance : DecidablePred IsFinite := fun filter =>
  decidable_of_iff (∀ field ∈ Field.all, ∀ scalar ∈ filter.get field, scalar.IsFinite)
    ⟨fun finite field => finite field field.mem_all, fun finite field _ => finite field⟩

/-- Only five fields hold numbers that may not be whole. -/
theorem isFinite_iff {filter : Filter} :
    filter.IsFinite ↔
      ∀ number ∈ [filter.minRating, filter.maxRating, filter.minMinutes, filter.maxMinutes,
        filter.addedWithinDays], ∀ scalar ∈ number.map Scalar.number, scalar.IsFinite := by
  simp only [List.forall_mem_cons]
  constructor
  · intro finite
    exact ⟨finite .minRating, finite .maxRating, finite .minMinutes, finite .maxMinutes,
      finite .addedWithinDays, List.forall_mem_nil _⟩
  · rintro ⟨lowest, highest, shortest, longest, newest, -⟩ field
    cases field
    case minRating => exact lowest
    case maxRating => exact highest
    case minMinutes => exact shortest
    case maxMinutes => exact longest
    case addedWithinDays => exact newest
    case year | minYear | maxYear | decade | limit => exact Scalar.isFinite_of_mem_map_int
    case unwatched | watched | inProgress => exact Scalar.isFinite_of_mem_map_bool
    all_goals exact Scalar.isFinite_of_mem_map_text

theorem nodup_names : (Field.all.map Field.name).Nodup := by
  decide

theorem isData_toValue (filter : Filter) : filter.toValue.IsData :=
  Scalar.isData_objectOf
    ((Keyed.map_fst_filterMap_sublist Field.name filter.get Field.all).nodup nodup_names)

theorem allFinite_toValue_iff (filter : Filter) : filter.toValue.AllFinite ↔ filter.IsFinite := by
  rw [toValue, Scalar.allFinite_objectOf_iff]
  constructor
  · intro finite field scalar held
    refine finite (field.name, scalar) (List.mem_filterMap.mpr ⟨field, field.mem_all, ?_⟩)
    rw [Option.mem_def.mp held, Option.map_some]
  · intro finite named member
    obtain ⟨field, -, found⟩ := List.mem_filterMap.mp member
    obtain ⟨scalar, held, rfl⟩ := Option.map_eq_some_iff.mp found
    exact finite field scalar held

end Filter

/-!
## Queries
-/

namespace Query

theorem isData_toValue {query : Query} (distinct : (query.parameters.map (·.1)).Nodup) :
    query.toValue.IsData := by
  refine .object (by simp) ?_
  simp only [List.forall_mem_cons]
  refine ⟨.text _, Scalar.isData_objectOf distinct, .text _, .object (by simp) ?_,
    List.forall_mem_nil _⟩
  simp only [List.forall_mem_cons]
  exact ⟨.int _, .int _, List.forall_mem_nil _⟩

theorem allFinite_toValue_iff (query : Query) :
    query.toValue.AllFinite ↔ ∀ parameter ∈ query.parameters, parameter.2.IsFinite := by
  simp only [toValue, Value.allFinite_object_iff, List.forall_mem_cons, Value.allFinite_text,
    Value.allFinite_int, Scalar.allFinite_objectOf_iff, List.not_mem_nil, false_implies,
    implies_true, true_and, and_true]

/-- Only durations are computed with: those of a finite filter may be too long for a number. -/
theorem isFinite_of_mem_parametersOf {filter : Filter} (finite : filter.IsFinite)
    (shortest : ∀ scalar ∈ durationValue filter.minMinutes, scalar.IsFinite)
    (longest : ∀ scalar ∈ durationValue filter.maxMinutes, scalar.IsFinite) {thisYear : Int}
    {since : Option Int} :
    ∀ parameter ∈ parametersOf filter thisYear since, parameter.2.IsFinite := by
  have flags (flag : Option Bool) (value : Int) :
      ∀ scalar ∈ flagValue flag value, scalar.IsFinite := by
    intro scalar held
    rw [eq_of_flagValue held]
    trivial
  have lowest : ∀ scalar ∈ filter.minRating.map Scalar.number, scalar.IsFinite :=
    finite .minRating
  have highest : ∀ scalar ∈ filter.maxRating.map Scalar.number, scalar.IsFinite :=
    finite .maxRating
  have all : ∀ slot ∈ slots filter thisYear since, ∀ scalar ∈ slot.2, scalar.IsFinite := by
    simp only [slots, List.forall_mem_cons, iff_true_intro Scalar.isFinite_of_mem_map_text,
      iff_true_intro Scalar.isFinite_of_mem_map_int, iff_true_intro (flags _ _),
      iff_true_intro shortest, iff_true_intro longest, iff_true_intro lowest,
      iff_true_intro highest, true_and]
    refine ⟨?_, ?_, List.forall_mem_nil _⟩
    · rintro _ ⟨⟩
      trivial
    · rintro _ ⟨⟩
      trivial
  rintro ⟨name, value⟩ member
  rw [parametersOf_eq_filled] at member
  exact all _ (mem_filled.mp member) value rfl

end Query

/-!
## Cards and outcomes
-/

namespace Record

theorem isFinite_of_mem_filledText {text : Option String} :
    ∀ scalar ∈ filledText text, scalar.IsFinite := by
  intro scalar held
  obtain ⟨written, -, found⟩ := Option.bind_eq_some_iff.mp held
  obtain ⟨-, same⟩ := Option.ite_none_left_eq_some.mp found
  cases same
  trivial

theorem isFinite_of_mem_joined {names : List String} :
    ∀ scalar ∈ joined names, scalar.IsFinite := by
  intro scalar held
  obtain ⟨-, same⟩ := Option.ite_none_left_eq_some.mp held
  cases same
  trivial

/-- A rating of zero is left out of a card, and it is finite. -/
theorem forall_mem_filter_isZero_isFinite_iff (rating : Option Binary64) :
    (∀ number ∈ rating.filter (!·.isZero), number.IsFinite) ↔
      ∀ number ∈ rating, number.IsFinite := by
  cases rating with
  | none => rfl
  | some number =>
      cases number with
      | finite number => simp [Option.filter, Binary64.IsFinite]
      | infinite negative => rfl
      | nan => rfl

theorem forall_mem_card_isFinite_iff {record : Record} {card : List NamedScalar}
    (shown : record.card = .ok card) :
    (∀ entry ∈ card, entry.2.IsFinite) ↔ ∀ rating ∈ record.rating, rating.IsFinite := by
  obtain ⟨duration, -, rest⟩ := Result.bind_eq_ok_iff.mp shown
  obtain ⟨progress, -, written⟩ := Result.bind_eq_ok_iff.mp rest
  cases written
  have year : ((record.year.map Scalar.int).getD .null).IsFinite := by
    cases record.year <;> trivial
  simp only [List.forall_mem_append, line, forall_mem_toList_map,
    Scalar.forall_mem_map_real_isFinite_iff, forall_mem_filter_isZero_isFinite_iff,
    iff_true_intro isFinite_of_mem_filledText, iff_true_intro isFinite_of_mem_joined,
    iff_true_intro Scalar.isFinite_of_mem_map_int,
    iff_true_intro Scalar.isFinite_of_mem_map_text, and_true]
  apply and_iff_right
  simp only [List.forall_mem_cons]
  exact ⟨trivial, trivial, trivial, year, List.forall_mem_nil _⟩

theorem isData_cards {records : List Record} {shown : List (List NamedScalar)}
    (made : cards records = .ok shown) : (Value.list (shown.map Scalar.objectOf)).IsData := by
  refine .list (List.forall_mem_map.mpr ?_)
  refine (Result.forall_mem_iff_of_mapM (fun _ card written => ?_) made).mpr fun _ _ => trivial
  exact iff_true_intro (Scalar.isData_objectOf (nodup_card written))

theorem allFinite_cards_iff {records : List Record} {shown : List (List NamedScalar)}
    (made : cards records = .ok shown) :
    (Value.list (shown.map Scalar.objectOf)).AllFinite ↔
      ∀ record ∈ records, ∀ rating ∈ record.rating, rating.IsFinite := by
  rw [Value.allFinite_list_iff, List.forall_mem_map]
  refine Result.forall_mem_iff_of_mapM (fun record card written => ?_) made
  rw [Scalar.allFinite_objectOf_iff, forall_mem_card_isFinite_iff written]

end Record

namespace Outcome

/-- The numbers of the filters and the ratings of the records are finite. -/
@[mk_iff]
structure IsFinite (outcome : Outcome) : Prop where
  extracted : ∀ filter ∈ outcome.extracted, filter.IsFinite
  filters : outcome.filters.IsFinite
  ratings : ∀ record ∈ outcome.records, ∀ rating ∈ record.rating, rating.IsFinite

instance : DecidablePred IsFinite := fun outcome =>
  decidable_of_iff' _ (isFinite_iff outcome)

variable {outcome : Outcome} {payload : Value}

theorem isData_payload (made : outcome.payload = .ok payload) : payload.IsData := by
  obtain ⟨cards, shown, written⟩ := Result.bind_eq_ok_iff.mp made
  cases written
  refine .object ?_ ?_
  · cases outcome.query <;> cases outcome.extracted <;> simp
  · simp only [List.forall_mem_append, forall_mem_toList_map, List.forall_mem_cons]
    exact ⟨⟨⟨⟨.text _, List.forall_mem_nil _⟩, fun query _ => .text query⟩,
      fun extracted _ => extracted.isData_toValue⟩,
      outcome.filters.isData_toValue, Record.isData_cards shown, List.forall_mem_nil _⟩

theorem allFinite_payload_iff (made : outcome.payload = .ok payload) :
    payload.AllFinite ↔ outcome.IsFinite := by
  obtain ⟨cards, shown, written⟩ := Result.bind_eq_ok_iff.mp made
  cases written
  simp only [Value.allFinite_object_iff, List.forall_mem_append, forall_mem_toList_map,
    List.forall_mem_cons, Value.allFinite_text, Filter.allFinite_toValue_iff,
    Record.allFinite_cards_iff shown, List.not_mem_nil, false_implies, implies_true, true_and,
    and_true, isFinite_iff]

end Outcome

end MediaSearch
