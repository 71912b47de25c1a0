import MediaSearch.Filter.Resolution
import MediaSearch.Proofs.Filter.Fields

/-!
# Filters laid over one another

Laying filters over one another is a choice made for each field by itself, so that the order of
grouping, repetition and empty filters do not matter. Resolving lays two filters over one another
and then settles four fields. A filter that is settled stays as it is.
-/

set_option autoImplicit false

namespace MediaSearch.Filter

theorem overlay_assoc (base middle top : Filter) :
    (base.overlay middle).overlay top = base.overlay (middle.overlay top) := by
  apply ext_get
  intro field
  rw [get_overlay, get_overlay, get_overlay, get_overlay, Option.or_assoc]

theorem overlay_self (filter : Filter) : filter.overlay filter = filter := by
  apply ext_get
  intro field
  rw [get_overlay, Option.or_self]

theorem overlay_empty_left (filter : Filter) : overlay {} filter = filter := by
  apply ext_get
  intro field
  rw [get_overlay, get_empty, Option.or_none]

theorem overlay_empty_right (filter : Filter) : filter.overlay {} = filter := by
  apply ext_get
  intro field
  rw [get_overlay, get_empty, Option.none_or]

/-!
## Settled filters
-/

/-- The fields that resolving settles. -/
def settledFields : List Field := [.type, .sort, .sortOrder, .limit]

/-- Nothing is left to fill in: type and sort field are texts that are not empty, the order is one
of the two, and there is a page size. -/
structure Settled (filter : Filter) : Prop where
  type : ∃ type, filter.type = some type ∧ type ≠ ""
  sort : ∃ field, filter.sort = some field ∧ field ≠ ""
  sortOrder : ∃ order ∈ Vocabulary.sortOrders, filter.sortOrder = some order
  limit : ∃ limit, filter.limit = some limit

theorem textOr_ne_empty {fallback : String} (filled : fallback ≠ "") (text : Option String) :
    textOr fallback text ≠ "" := by
  cases text with
  | none => exact filled
  | some text =>
      by_cases empty : text = ""
      · simp [textOr, empty, filled]
      · simp [textOr, empty]

theorem textOr_of_ne_empty (fallback : String) {text : String} (filled : text ≠ "") :
    textOr fallback (some text) = text := by
  simp [textOr, filled]

theorem settled_withDefaults (filter : Filter) (limit : Option Int) :
    (filter.withDefaults limit).Settled where
  type := ⟨_, rfl, textOr_ne_empty (by decide) filter.type⟩
  sort := ⟨_, rfl, textOr_ne_empty (by decide) filter.sort⟩
  sortOrder := by
    refine ⟨_, ?_, rfl⟩
    split <;> decide
  limit := ⟨_, rfl⟩

theorem Settled.isSome_get {filter : Filter} (settled : filter.Settled) {field : Field}
    (member : field ∈ settledFields) : (filter.get field).isSome = true := by
  obtain ⟨⟨_, type, _⟩, ⟨_, sort, _⟩, ⟨_, _, sortOrder⟩, ⟨_, limit⟩⟩ := settled
  simp only [settledFields, List.mem_cons, List.not_mem_nil, or_false] at member
  rcases member with rfl | rfl | rfl | rfl
  · simp [get, type]
  · simp [get, sort]
  · simp [get, sortOrder]
  · simp [get, limit]

theorem Settled.withDefaults_eq {filter : Filter} (settled : filter.Settled)
    (limit : Option Int) : filter.withDefaults limit = filter := by
  obtain ⟨⟨type, typeSet, typed⟩, ⟨sort, sortSet, sorted⟩, ⟨order, known, orderSet⟩,
    ⟨size, sizeSet⟩⟩ := settled
  have sameOrder : (if some order = some "desc" then "desc" else Vocabulary.defaultSortOrder) =
      order := by
    simp only [Vocabulary.sortOrders, List.mem_cons, List.not_mem_nil, or_false] at known
    rcases known with rfl | rfl <;> rfl
  rw [withDefaults, typeSet, sortSet, orderSet, sizeSet, textOr_of_ne_empty _ typed,
    textOr_of_ne_empty _ sorted, sameOrder, Option.some_or, Option.getD_some, ← typeSet, ← sortSet,
    ← orderSet, ← sizeSet]

theorem get_withDefaults {filter : Filter} {field : Field} (other : field ∉ settledFields)
    (limit : Option Int) : (filter.withDefaults limit).get field = filter.get field := by
  cases field
  case type | sort | sortOrder | limit => exact absurd (by decide) other
  all_goals rfl

/-!
## Resolving
-/

theorem resolve_eq (extracted explicit : Option Filter) (limit : Option Int) :
    resolve extracted explicit limit =
      ((extracted.getD {}).overlay (explicit.getD {})).withDefaults limit := by
  cases explicit with
  | none => rw [Option.getD_none, overlay_empty_right, resolve]
  | some explicit => rfl

theorem settled_resolve (extracted explicit : Option Filter) (limit : Option Int) :
    (resolve extracted explicit limit).Settled := by
  rw [resolve_eq]
  exact settled_withDefaults _ limit

theorem Settled.resolve_eq_self {filter : Filter} (settled : filter.Settled)
    (limit : Option Int) :
    resolve (some filter) none limit = filter ∧ resolve none (some filter) limit = filter := by
  constructor
  · rw [resolve_eq, Option.getD_some, Option.getD_none, overlay_empty_right,
      settled.withDefaults_eq]
  · rw [resolve_eq, Option.getD_some, Option.getD_none, overlay_empty_left,
      settled.withDefaults_eq]

/-- Overlays may be grouped in any way and repeated, and empty filters left out. Resolving settles
four fields, takes each other one from the explicit filter if it is set there, to whatever, and else
from the extracted one, and is over after one time. -/
theorem overlay_and_resolve_laws :
    (∀ base middle top : Filter,
      (base.overlay middle).overlay top = base.overlay (middle.overlay top)) ∧
    (∀ filter : Filter, filter.overlay filter = filter ∧ filter.overlay {} = filter ∧
      overlay {} filter = filter) ∧
    ∀ (extracted explicit : Option Filter) (limit : Option Int),
      (∀ field ∈ settledFields,
        ((resolve extracted explicit limit).get field).isSome = true) ∧
      (∀ field ∉ settledFields, ∀ scalar, (explicit.getD {}).get field = some scalar →
        (resolve extracted explicit limit).get field = some scalar) ∧
      (∀ field ∉ settledFields, (explicit.getD {}).get field = none →
        (resolve extracted explicit limit).get field = (extracted.getD {}).get field) ∧
      resolve extracted explicit limit =
        resolve (some ((extracted.getD {}).overlay (explicit.getD {}))) none limit ∧
      ∀ again,
        resolve (some (resolve extracted explicit limit)) none again =
          resolve extracted explicit limit ∧
        resolve none (some (resolve extracted explicit limit)) again =
          resolve extracted explicit limit := by
  refine ⟨overlay_assoc, fun filter => ⟨overlay_self filter, overlay_empty_right filter,
    overlay_empty_left filter⟩, fun extracted explicit limit => ⟨?_, ?_, ?_, ?_, ?_⟩⟩
  · intro field member
    exact (settled_resolve extracted explicit limit).isSome_get member
  · intro field other scalar set
    rw [resolve_eq, get_withDefaults other, get_overlay, set, Option.some_or]
  · intro field other unset
    rw [resolve_eq, get_withDefaults other, get_overlay, unset, Option.none_or]
  · rw [resolve_eq, resolve_eq, Option.getD_some, Option.getD_none, overlay_empty_right]
  · intro again
    exact (settled_resolve extracted explicit limit).resolve_eq_self again

/-- False and the empty text win over what was found in a text. -/
example :
    resolve (some { title := some "Alien", unwatched := some true, sort := some "" })
        (some { title := some "", unwatched := some false, limit := some 0 }) (some 40) =
      { type := some "movie", title := some "", unwatched := some false, sort := some "titleSort",
        sortOrder := some "asc", limit := some 0 } := by
  decide

end MediaSearch.Filter
