/-!
# Parts of texts

A text cut at every place where a separator stands, and names of several parts in one word.
-/

set_option autoImplicit false

namespace MediaSearch.Text

def extendFirstPart (character : Char) : List (List Char) → List (List Char)
  | [] => [[character]]
  | part :: parts => (character :: part) :: parts

/-- The parts of a text between separators. There is always one part more than separators. -/
def parts (separator : Char) : List Char → List (List Char)
  | [] => [[]]
  | character :: rest =>
      if character = separator then [] :: parts separator rest
      else extendFirstPart character (parts separator rest)

theorem parts_ne_nil (separator : Char) (text : List Char) : parts separator text ≠ [] := by
  cases text with
  | nil => simp [parts]
  | cons character rest =>
      unfold parts
      split
      · simp
      · cases parts separator rest <;> simp [extendFirstPart]

/-- Putting the separator back between the parts gives the text. -/
theorem intercalate_parts (separator : Char) (text : List Char) :
    [separator].intercalate (parts separator text) = text := by
  induction text with
  | nil => rfl
  | cons character rest ih =>
      have some_part := parts_ne_nil separator rest
      unfold parts
      cases found : parts separator rest with
      | nil => exact absurd found some_part
      | cons part others =>
          rw [found] at ih
          split
          · subst character
            simp [List.intercalate, List.intersperse] at ih ⊢
            exact ih
          · cases others <;> simp_all [List.intercalate, List.intersperse, extendFirstPart]

theorem parts_of_not_mem {separator : Char} {text : List Char} (free : separator ∉ text) :
    parts separator text = [text] := by
  induction text with
  | nil => rfl
  | cons character rest ih =>
      rw [List.mem_cons, not_or] at free
      obtain ⟨different, free⟩ := free
      rw [parts, if_neg (Ne.symm different), ih free, extendFirstPart]

theorem parts_append_of_not_mem {separator : Char} {part : List Char} (free : separator ∉ part)
    (rest : List Char) :
    parts separator (part ++ separator :: rest) = part :: parts separator rest := by
  induction part with
  | nil => rw [List.nil_append, parts, if_pos rfl]
  | cons character part ih =>
      rw [List.mem_cons, not_or] at free
      obtain ⟨different, free⟩ := free
      rw [List.cons_append, parts, if_neg (Ne.symm different), ih free, extendFirstPart]

end MediaSearch.Text
