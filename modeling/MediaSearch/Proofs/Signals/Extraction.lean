import MediaSearch.Proofs.Filter.Written
import MediaSearch.Signal

/-!
# What extraction yields

Reading a text fails only at its numerals. Whatever words a text is made of, the type, resolution
and order that are found in it come from fixed tables, so that they are words that a structured
filter may use.
-/

set_option autoImplicit false

namespace MediaSearch

theorem Signal.firstMentioned_mem {α : Type} {table : List (List String × α)} {text : List Char}
    {value : α} (found : firstMentioned table text = some value) : value ∈ table.map (·.2) := by
  obtain ⟨row, chosen, rfl⟩ := Option.map_eq_some_iff.mp found
  exact List.mem_map.mpr ⟨row, List.mem_of_find?_eq_some chosen, rfl⟩

namespace Signals

/-- A text is read exactly if its three numerals are, and every signal is then found by itself. -/
theorem ofLowered_eq_ok_iff {text : List Char} {signals : Signals} :
    ofLowered text = .ok signals ↔
      ∃ maxMinutes minMinutes addedWithinDays,
        Signal.maxMinutes? text = .ok maxMinutes ∧ Signal.minMinutes? text = .ok minMinutes ∧
        Signal.addedWithinDays? text = .ok addedWithinDays ∧
        signals = {
          type := Signal.type? text
          watching := Signal.watching text
          years := Signal.years text
          minRating := Signal.minRating? text
          maxRating := Signal.maxRating? text
          genre := Signal.genre? text
          maxMinutes
          minMinutes
          resolution := Signal.resolution? text
          addedWithinDays
          contentRating := Signal.contentRating? text
          order := Signal.order? text } := by
  simp only [ofLowered, Result.bind_eq_ok_iff, pure, Except.pure, Except.ok.injEq, exists_and_left,
    eq_comm (b := signals)]

theorem toFilter_inVocabulary {text : List Char} {signals : Signals}
    (read : ofLowered text = .ok signals) : signals.toFilter.InVocabulary := by
  obtain ⟨_, _, _, _, _, _, rfl⟩ := ofLowered_eq_ok_iff.mp read
  have types : ∀ type ∈ Signal.typeTable.map (·.2), type ∈ Vocabulary.mediaTypes := by
    decide
  have resolutions : ∀ resolution ∈ Signal.resolutionTable.map (·.2),
      resolution ∈ Vocabulary.resolutions := by
    decide
  have orders : ∀ order ∈ Signal.orderTable.map (·.2), order.field ∈ Vocabulary.sortFields ∧
      ∀ direction ∈ order.direction, direction ∈ Vocabulary.sortOrders := by
    decide
  constructor
  · intro type found
    exact types type (Signal.firstMentioned_mem found)
  · intro resolution found
    exact resolutions resolution (Signal.firstMentioned_mem found)
  · intro field found
    obtain ⟨order, chosen, rfl⟩ := Option.map_eq_some_iff.mp found
    exact (orders order (Signal.firstMentioned_mem chosen)).1
  · intro direction found
    obtain ⟨order, chosen, given⟩ := Option.bind_eq_some_iff.mp found
    exact (orders order (Signal.firstMentioned_mem chosen)).2 direction given

/-- No text names a page size. -/
theorem toFilter_limit (signals : Signals) : signals.toFilter.limit = none := rfl

end Signals

theorem Filter.ofText_eq_ok_iff {text : String} {filter : Filter} :
    Filter.ofText text = .ok filter ↔
      ∃ signals, Signals.ofText text = .ok signals ∧ filter = signals.toFilter := by
  unfold Filter.ofText
  cases Signals.ofText text with
  | error error => simp [Except.map]
  | ok signals => simp [Except.map, eq_comm]

end MediaSearch
