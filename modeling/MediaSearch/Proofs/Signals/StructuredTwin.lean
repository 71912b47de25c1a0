import MediaSearch.Filter.Resolution
import MediaSearch.Proofs.Signals.Extraction

/-!
# Texts and structured filters

What a text says can be asked for with a structured filter as well. Structured filters have a
default sort order of their own and need a type, so the object that asks for the same has to give
both, and the page size.
-/

set_option autoImplicit false

namespace MediaSearch.Filter

/-- An object that asks for what was found in a text: the fields that are set, and a type and a sort
order where none was found, and the page size. -/
def structuredEntries (extracted : Filter) (limit : Int) : Entries :=
  extracted.written ++
    (if extracted.type.isNone then [("type", .text "movie")] else []) ++
    (if extracted.sortOrder.isNone then [("sortOrder", .text "asc")] else []) ++
    [("limit", .int limit)]

/-- The filter with type and sort order filled in, and with the page size. -/
def completed (extracted : Filter) (limit : Int) : Filter :=
  { extracted with
    type := extracted.type.or (some "movie")
    sortOrder := extracted.sortOrder.or (some "asc")
    limit := some limit }

theorem get_completed_iff {extracted : Filter} (unlimited : extracted.limit = none) {limit : Int}
    {field : Field} {scalar : Scalar} :
    (extracted.completed limit).get field = some scalar ↔
      extracted.get field = some scalar ∨
      (extracted.type = none ∧ field = .type ∧ scalar = .text "movie") ∨
      (extracted.sortOrder = none ∧ field = .sortOrder ∧ scalar = .text "asc") ∨
      (field = .limit ∧ scalar = .int limit) := by
  cases field
  case type => cases found : extracted.type <;> simp [completed, get, found, eq_comm]
  case sortOrder => cases found : extracted.sortOrder <;> simp [completed, get, found, eq_comm]
  case limit => simp [completed, get, unlimited, eq_comm]
  all_goals simp [completed, get]

theorem mem_structuredEntries {extracted : Filter} (unlimited : extracted.limit = none)
    {limit : Int} {entry : String × Value} :
    entry ∈ extracted.structuredEntries limit ↔ entry ∈ (extracted.completed limit).written := by
  simp only [structuredEntries, List.mem_append, List.mem_ite_nil_right, List.mem_singleton,
    Option.isNone_iff_eq_none, or_assoc, mem_written, get_completed_iff unlimited]
  constructor
  · rintro (⟨field, scalar, held, rfl⟩ | ⟨untyped, rfl⟩ | ⟨unordered, rfl⟩ | rfl)
    · exact ⟨field, scalar, .inl held, rfl⟩
    · exact ⟨.type, .text "movie", .inr (.inl ⟨untyped, rfl, rfl⟩), rfl⟩
    · exact ⟨.sortOrder, .text "asc", .inr (.inr (.inl ⟨unordered, rfl, rfl⟩)), rfl⟩
    · exact ⟨.limit, .int limit, .inr (.inr (.inr ⟨rfl, rfl⟩)), rfl⟩
  · rintro ⟨field, scalar, held | ⟨untyped, rfl, rfl⟩ | ⟨unordered, rfl, rfl⟩ | ⟨rfl, rfl⟩, rfl⟩
    · exact .inl ⟨field, scalar, held, rfl⟩
    · exact .inr (.inl ⟨untyped, rfl⟩)
    · exact .inr (.inr (.inl ⟨unordered, rfl⟩))
    · exact .inr (.inr (.inr rfl))

theorem completed_inVocabulary {extracted : Filter} (spoken : extracted.InVocabulary)
    (limit : Int) : (extracted.completed limit).InVocabulary := by
  constructor
  · intro type held
    rcases Option.or_eq_some_iff.mp held with found | ⟨_, added⟩
    · exact spoken.type type found
    · cases added
      decide
  · exact spoken.resolution
  · exact spoken.sort
  · intro order held
    rcases Option.or_eq_some_iff.mp held with found | ⟨_, added⟩
    · exact spoken.sortOrder order found
    · cases added
      decide

theorem resolve_completed (extracted : Filter) (unlimited : extracted.limit = none) (limit : Int)
    (other : Option Int) :
    resolve none (some (extracted.completed limit).withStructuredDefaults) other =
      resolve (some extracted) none (some limit) := by
  have sameType : textOr Vocabulary.defaultType (some (extracted.type.getD "movie")) =
      textOr Vocabulary.defaultType extracted.type := by
    cases extracted.type <;> rfl
  have sameOrder : extracted.sortOrder.getD "asc" = "desc" ↔
      extracted.sortOrder = some "desc" := by
    cases extracted.sortOrder <;> simp
  simp [resolve, overlay, completed, withStructuredDefaults, withDefaults, unlimited, sameType,
    sameOrder]

/-- What a text says may be written as an object, with the entries in any order. The object is
accepted as a structured filter, and resolves to the same filter as the text. -/
theorem resolve_ofValue_structuredEntries {text key : String} {extracted : Filter} {limit : Int}
    {entries : Entries} (found : ofText text = .ok extracted)
    (written : entries.Perm (extracted.structuredEntries limit)) :
    ∃ parsed, ofValue key (.object entries) = .ok parsed ∧
      ∀ other, resolve none (some parsed) other = resolve (some extracted) none (some limit) := by
  obtain ⟨signals, read, rfl⟩ := ofText_eq_ok_iff.mp found
  have unlimited := signals.toFilter_limit
  have spoken := completed_inVocabulary (Signals.toFilter_inVocabulary read) limit
  have typed : (signals.toFilter.completed limit).type.isSome = true := by
    simp [completed]
  refine ⟨_, ofValue_written spoken typed ?_, resolve_completed _ unlimited limit⟩
  intro entry
  exact written.mem_iff.trans (mem_structuredEntries unlimited)

/-- What is found in a text with a signal of most kinds. -/
def busyWish : Filter where
  type := some "show"
  decade := some 2800
  genre := some "comedy"
  contentRating := some "TV-14"
  minRating := some (.real (Binary64.ofDigits ['7'] ['5']))
  unwatched := some true
  maxMinutes := some (.int 45)
  addedWithinDays := some (.int 14)
  resolution := some "hd"
  sort := some "random"

theorem resolve_ofValue_structuredEntries_busy :
    let text := "Random unwatched tv-14 comedy shows from the 90s in HD " ++
      "under 45 min rated above 7.5, added in the last 2 weeks"
    let entries := (busyWish.structuredEntries 0).reverse
    ofText text = .ok busyWish ∧ entries.Perm (busyWish.structuredEntries 0) ∧
      ∃ parsed, ofValue "filter" (.object entries) = .ok parsed ∧
        ∀ other, resolve none (some parsed) other = resolve (some busyWish) none (some 0) := by
  intro text entries
  have found : ofText text = .ok busyWish := by
    decide +kernel
  have reversed : entries.Perm (busyWish.structuredEntries 0) := List.reverse_perm _
  exact ⟨found, reversed, resolve_ofValue_structuredEntries found reversed⟩

end MediaSearch.Filter
