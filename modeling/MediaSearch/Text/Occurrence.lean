/-!
# Occurrences of words in texts

A word occurs in a text if its characters stand there in a row, whatever surrounds them. The word
at the front of a text can be taken off.
-/

set_option autoImplicit false

namespace MediaSearch.Text

def occursIn (word : List Char) : List Char → Bool
  | [] => word.isEmpty
  | character :: rest => word.isPrefixOf (character :: rest) || occursIn word rest

/-- The word stands in the text exactly if the text continues some beginning with it. -/
theorem occursIn_iff {word text : List Char} : occursIn word text = true ↔ word <:+: text := by
  induction text with
  | nil => simp [occursIn]
  | cons character rest ih =>
      rw [occursIn, Bool.or_eq_true, List.isPrefixOf_iff_prefix, ih, List.infix_cons_iff]

def after? : (word text : List Char) → Option (List Char)
  | [], text => some text
  | _ :: _, [] => none
  | wanted :: word, character :: text => if wanted = character then after? word text else none

/-- Taking a word off succeeds exactly if the text is the word and what is left. -/
theorem after?_eq_some_iff {word text rest : List Char} :
    after? word text = some rest ↔ text = word ++ rest := by
  induction word generalizing text with
  | nil => simp [after?, eq_comm]
  | cons wanted word ih =>
      cases text with
      | nil => simp [after?]
      | cons character text =>
          by_cases same : wanted = character
          · simp [after?, same, ih]
          · simp [after?, same, eq_comm]

def afterAny? (words : List (List Char)) (text : List Char) : Option (List Char) :=
  words.findSome? fun word => after? word text

end MediaSearch.Text
