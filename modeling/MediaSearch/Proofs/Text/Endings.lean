import MediaSearch.Proofs.Value.Blank

/-!
# Ends of texts

A text that ends with something to be seen keeps all of it when blanks are cut off behind it.
-/

set_option autoImplicit false

namespace MediaSearch

/-- The last character is not blank. The empty text has none. -/
def Text.EndsVisibly (text : String) : Prop :=
  ∃ last ∈ text.toList.getLast?, isBlank last = false

namespace Text

theorem endsVisibly_of_forall {text : String} (nonempty : text ≠ "")
    (visible : ∀ character ∈ text.toList, isBlank character = false) : EndsVisibly text := by
  have left : text.toList ≠ [] := mt String.toList_eq_nil_iff.mp nonempty
  exact ⟨text.toList.getLast left, List.getLast?_eq_some_getLast left,
    visible _ (List.getLast_mem left)⟩

theorem EndsVisibly.append (front : String) {back : String} (ends : EndsVisibly back) :
    EndsVisibly (front ++ back) := by
  obtain ⟨last, found, visible⟩ := ends
  refine ⟨last, ?_, visible⟩
  rw [String.toList_append, List.getLast?_append, Option.mem_def.mp found]
  rfl

theorem endsVisibly_trim {text : String} (nonempty : trim text ≠ "") : EndsVisibly (trim text) := by
  unfold trim trimWhile dropEndWhile at nonempty ⊢
  rw [ne_eq, String.ofList_eq_empty_iff, List.reverse_eq_nil_iff] at nonempty
  refine ⟨(List.dropWhile isBlank (text.toList.dropWhile isBlank).reverse).head nonempty, ?_,
    List.head_dropWhile_not isBlank nonempty⟩
  rw [String.toList_ofList, List.getLast?_reverse]
  exact List.head?_eq_some_head nonempty

/-- Only what is blank is cut off. -/
theorem trimEnd_append {text blanks : String} (ends : EndsVisibly text)
    (blank : isBlankText blanks = true) : trimEnd (text ++ blanks) = text := by
  obtain ⟨last, found, visible⟩ := ends
  obtain ⟨front, split⟩ := List.getLast?_eq_some_iff.mp (Option.mem_def.mp found)
  have dropped : ∀ character ∈ blanks.toList.reverse, isBlank character = true :=
    fun character member => List.all_eq_true.mp blank character (List.mem_reverse.mp member)
  have solid : ¬ isBlank last = true := Bool.eq_false_iff.mp visible
  rw [trimEnd, dropEndWhile, String.toList_append, split, List.reverse_append,
    List.dropWhile_append_of_pos dropped, List.reverse_append, List.reverse_singleton,
    List.singleton_append, List.dropWhile_cons_of_neg solid, List.reverse_cons,
    List.reverse_reverse, ← split, String.ofList_toList]

end Text

theorem Integer.endsVisibly_text (value : Int) : Text.EndsVisibly (text value) := by
  apply Text.endsVisibly_of_forall
  · rw [text, ne_eq, String.ofList_eq_empty_iff]
    exact characters_ne_nil value
  · rw [text, String.toList_ofList]
    exact fun _ => isBlank_of_mem_characters

theorem Binary64.endsVisibly_text (number : Binary64) : Text.EndsVisibly number.text :=
  Text.endsVisibly_of_forall number.text_ne_empty fun _ => isBlank_of_mem_text

end MediaSearch
