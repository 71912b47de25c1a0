import MediaSearch.Proofs.Query.Slots

/-!
# The years of a query

A query asks for a span of years by two bounds, for one year, or for any. Its parameters tell which,
and no single year is asked for together with a bound.
-/

set_option autoImplicit false

namespace MediaSearch.Query

def yearNames : List String := ["year>>", "year<<", "year"]

/-- The parameters of a query that are about years. -/
def yearParameters (query : Query) : List NamedScalar :=
  query.parameters.filter fun parameter => parameter.1 ∈ yearNames

theorem mem_map_fst_yearParameters {query : Query} {name : String} (known : name ∈ yearNames) :
    name ∈ query.yearParameters.map (·.1) ↔ name ∈ query.parameters.map (·.1) := by
  simp only [yearParameters, List.mem_map, List.mem_filter, decide_eq_true_eq]
  constructor
  · rintro ⟨parameter, ⟨member, _⟩, rfl⟩
    exact ⟨parameter, member, rfl⟩
  · rintro ⟨parameter, member, rfl⟩
    exact ⟨parameter, ⟨member, known⟩, rfl⟩

theorem lookup_yearParameters {query : Query} {name : String} (known : name ∈ yearNames) :
    query.yearParameters.lookup name = query.parameters.lookup name := by
  unfold yearParameters
  induction query.parameters with
  | nil => rfl
  | cons parameter parameters ih =>
      obtain ⟨other, value⟩ := parameter
      by_cases kept : other ∈ yearNames
      · rw [List.filter_cons_of_pos (by simpa using kept), List.lookup_cons, List.lookup_cons, ih]
      · have different : (name == other) = false := beq_false_of_ne fun same => kept (same ▸ known)
        rw [List.filter_cons_of_neg (by simpa using kept), ih, List.lookup_cons, different]

theorem yearParameters_of_ofFilter {filter : Filter} {sections : List Section} {now : Moment}
    {query : Query} (compiled : ofFilter filter sections now = .ok query) :
    query.yearParameters = (YearRange.ofFilter filter now.date.year).parameters := by
  obtain ⟨sectionId, since, _, _, rfl⟩ := ofFilter_eq_ok_iff.mp compiled
  rw [yearParameters, parametersOf_eq_filled, filter_filled (· ∈ yearNames),
    YearRange.parameters_eq_filled]
  simp [slots, yearNames]

theorem YearRange.first_iff_last (years : YearRange) :
    "year>>" ∈ years.parameters.map (·.1) ↔ "year<<" ∈ years.parameters.map (·.1) := by
  cases years <;> simp [parameters]

theorem YearRange.year_excludes_bounds (years : YearRange)
    (exact : "year" ∈ years.parameters.map (·.1)) :
    "year>>" ∉ years.parameters.map (·.1) ∧ "year<<" ∉ years.parameters.map (·.1) := by
  cases years with
  | unbounded => simp [parameters]
  | exactly year => simp [parameters]
  | between first last => simp [parameters] at exact

end MediaSearch.Query
