import MediaSearch.Proofs.Filter.Overlay
import MediaSearch.Proofs.Query.Slots

/-!
# Defaults before and during compiling

Resolving a filter fills in type, sort field, sort order and page size, and so does compiling, each
by rules of its own: resolving replaces what is missing or empty, compiling whatever it does not
know. Wherever resolving changes a filter, compiling had taken the same default.
-/

set_option autoImplicit false

namespace MediaSearch

/-- An empty type is no word for a kind, and so counts as movie with or without the default. -/
theorem MediaKind.ofType_textOr (type : Option String) :
    ofType (some (Filter.textOr Vocabulary.defaultType type)) = ofType type := by
  cases type with
  | none => rfl
  | some type =>
      by_cases empty : type = ""
      · subst empty
        rfl
      · simp [Filter.textOr, empty]

theorem Section.choose?_congr {left right : Filter} (sameId : left.sectionId = right.sectionId)
    (sameKind : MediaKind.ofType left.type = MediaKind.ofType right.type)
    (sections : List Section) : choose? left sections = choose? right sections := by
  unfold choose? choose?.firstSuitable
  rw [sameId, sameKind]

namespace Query

theorem sortText_textOr (field order : Option String) :
    sortText (some (Filter.textOr Vocabulary.defaultSort field)) order = sortText field order := by
  cases field with
  | none => rfl
  | some field =>
      by_cases empty : field = ""
      · subst empty
        rfl
      · simp [Filter.textOr, empty]

theorem sortText_orderOr (field order : Option String) :
    sortText field (some (if order = some "desc" then "desc" else Vocabulary.defaultSortOrder)) =
      sortText field order := by
  by_cases descending : order = some "desc"
  · rw [if_pos descending, descending]
  · rw [if_neg descending]
    simp [sortText, descending, Vocabulary.defaultSortOrder]

/-- Filters compile alike, errors included, if they name the same section and the same time, fill
the same slots and ask for the same page. -/
theorem ofFilter_congr {left right : Filter} {sections : List Section} {now : Moment}
    (sameSection : Section.choose? left sections = Section.choose? right sections)
    (sameDays : left.addedWithinDays = right.addedWithinDays)
    (sameSlots : ∀ thisYear since, slots left thisYear since = slots right thisYear since)
    (sameSort : sortText left.sort left.sortOrder = sortText right.sort right.sortOrder)
    (sameSize : left.limit.getD Vocabulary.defaultLimit =
      right.limit.getD Vocabulary.defaultLimit) :
    ofFilter left sections now = ofFilter right sections now := by
  have sameParameters : ∀ thisYear since,
      parametersOf left thisYear since = parametersOf right thisYear since :=
    fun thisYear since => parametersOf_eq_iff.mpr (sameSlots thisYear since)
  simp only [ofFilter, sameSection, sameDays, sameParameters, sameSort, sameSize]

/-- Filling defaults in does not change what a filter compiles to. -/
theorem ofFilter_withDefaults (filter : Filter) (sections : List Section) (now : Moment) :
    ofFilter (filter.withDefaults none) sections now = ofFilter filter sections now := by
  have sameKind : MediaKind.ofType (filter.withDefaults none).type =
      MediaKind.ofType filter.type := MediaKind.ofType_textOr filter.type
  have sameSort : sortText (filter.withDefaults none).sort (filter.withDefaults none).sortOrder =
      sortText filter.sort filter.sortOrder :=
    (sortText_orderOr _ filter.sortOrder).trans (sortText_textOr filter.sort filter.sortOrder)
  apply ofFilter_congr
  · apply Section.choose?_congr
    · rfl
    · exact sameKind
  · rfl
  · intro thisYear since
    unfold slots
    rw [sameKind, sameSort]
    rfl
  · exact sameSort
  · simp [Filter.withDefaults]

end Query

/-- Whether a filter was found in a text or given explicitly, resolving it first does not change
what it compiles to: the query is the same, or else the error. -/
theorem Query.ofFilter_resolve (filter : Filter) (sections : List Section) (now : Moment) :
    ofFilter (Filter.resolve (some filter) none none) sections now =
        ofFilter filter sections now ∧
      ofFilter (Filter.resolve none (some filter) none) sections now =
        ofFilter filter sections now := by
  constructor
  · exact ofFilter_withDefaults filter sections now
  · simp only [Filter.resolve, Option.getD_none, Filter.overlay_empty_left]
    exact ofFilter_withDefaults filter sections now

end MediaSearch
