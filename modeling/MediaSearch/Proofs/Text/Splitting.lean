/-!
# Splitting texts

A text splits in one way only into characters of a kind and a rest that does not begin with another.
-/

set_option autoImplicit false

namespace MediaSearch.Text

/-- The text does not begin with such a character. -/
def Apart (part : Char → Bool) (text : List Char) : Prop :=
  text.head?.any part = false

section

variable {part : Char → Bool}

theorem apart_nil : Apart part [] :=
  rfl

theorem apart_cons {character : Char} {text : List Char} :
    Apart part (character :: text) ↔ part character = false :=
  Iff.rfl

theorem Apart.append {front rest : List Char} (first : Apart part front) (second : Apart part rest) :
    Apart part (front ++ rest) := by
  cases front with
  | nil => exact second
  | cons character front => exact first

theorem takeWhile_append_of_apart {front rest : List Char}
    (all : ∀ character ∈ front, part character = true) (apart : Apart part rest) :
    (front ++ rest).takeWhile part = front := by
  rw [List.takeWhile_append_of_pos all]
  cases rest with
  | nil => exact List.append_nil _
  | cons character rest =>
      have ends : ¬ part character = true := Bool.eq_false_iff.mp apart
      rw [List.takeWhile_cons_of_neg ends, List.append_nil]

theorem append_inj_of_apart {front otherFront rest otherRest : List Char}
    (all : ∀ character ∈ front, part character = true)
    (otherAll : ∀ character ∈ otherFront, part character = true)
    (apart : Apart part rest) (otherApart : Apart part otherRest)
    (same : front ++ rest = otherFront ++ otherRest) : front = otherFront ∧ rest = otherRest := by
  have sameFront : front = otherFront := by
    rw [← takeWhile_append_of_apart all apart, same, takeWhile_append_of_apart otherAll otherApart]
  rw [sameFront] at same
  exact ⟨sameFront, List.append_cancel_left same⟩

end

end MediaSearch.Text
