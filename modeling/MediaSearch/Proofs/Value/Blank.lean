import MediaSearch.Proofs.Binary64.Layout
import MediaSearch.Proofs.Settings.Acceptance

/-!
# Blank values

A value is blank if it is nothing or a text without anything but blanks. Every other value shows
something when it is written as text.
-/

set_option autoImplicit false

namespace MediaSearch

theorem Text.isBlank_eq_false_of_code {character : Char} (above : 32 < character.toNat)
    (below : character.toNat < 0x85) : isBlank character = false := by
  rw [isBlank, Bool.eq_false_iff, ne_eq, CodeRanges.contains_iff]
  rintro ⟨range, listed, first, last⟩
  have outside : ∀ range ∈ blankRanges, range.2 ≤ 32 ∨ 0x85 ≤ range.1 := by decide
  rcases outside range listed with before | behind <;> omega

theorem Text.isBlank_eq_false_of_isDigit {character : Char} (digit : character.isDigit = true) :
    isBlank character = false := by
  rw [Char.isDigit_iff_toNat] at digit
  have zero : '0'.toNat = 48 := rfl
  have nine : '9'.toNat = 57 := rfl
  exact isBlank_eq_false_of_code (by omega) (by omega)

theorem Integer.isBlank_of_mem_characters {value : Int} {character : Char}
    (member : character ∈ characters value) : Text.isBlank character = false := by
  have part := isPart_of_mem_characters member
  rw [isPart, Bool.or_eq_true, beq_iff_eq] at part
  rcases part with digit | rfl
  · exact Text.isBlank_eq_false_of_isDigit digit
  · rfl

theorem Integer.characters_ne_nil (value : Int) : characters value ≠ [] := by
  cases value with
  | ofNat value => exact Nat.toDigits_ne_nil
  | negSucc value => exact List.cons_ne_nil _ _

theorem Binary64.isBlank_of_isPart {character : Char} (part : isPart character = true) :
    Text.isBlank character = false := by
  rw [isPart, Bool.or_eq_true, List.contains_iff_mem] at part
  rcases part with digit | mark
  · exact Text.isBlank_eq_false_of_isDigit digit
  · have visible : "+-.eE".toList.all fun mark => !Text.isBlank mark := by decide
    simpa using List.all_eq_true.mp visible character mark

theorem Binary64.isBlank_of_mem_text {number : Binary64} {character : Char}
    (member : character ∈ number.text.toList) : Text.isBlank character = false := by
  unfold text textAs at member
  cases number with
  | finite number =>
      rw [String.toList_ofList, List.mem_append] at member
      rcases member with sign | member
      · split at sign
        · rw [List.mem_singleton.mp sign]
          rfl
        · cases sign
      · exact isBlank_of_isPart (Finite.isPart_of_mem_characters member)
  | infinite negative =>
      have visible (negative : Bool) : (((if negative then "-" else "") ++
          plainLayout.infinity).toList.all fun letter => !Text.isBlank letter) = true := by
        cases negative <;> decide
      simpa using List.all_eq_true.mp (visible negative) character member
  | nan =>
      have visible : (plainLayout.notANumber.toList.all fun letter => !Text.isBlank letter) =
          true := by decide
      simpa using List.all_eq_true.mp visible character member

theorem Binary64.text_ne_empty (number : Binary64) : number.text ≠ "" := by
  rw [ne_eq, ← String.toList_eq_nil_iff]
  unfold text textAs
  cases number with
  | finite number =>
      rw [String.toList_ofList, List.append_eq_nil_iff]
      exact fun empty => Finite.characters_ne_nil plainLayout number empty.2
  | infinite negative => cases negative <;> decide
  | nan => decide

namespace Value

def IsBlank : Value → Prop
  | .null => True
  | .text written | .timestamp written => Text.isBlankText written = true
  | _ => False

theorem isBlankText_display_of_not_isBlank {value : Value} (visible : ¬ value.IsBlank) :
    Text.isBlankText value.display = false := by
  cases value with
  | null => exact absurd trivial visible
  | bool value => cases value <;> rfl
  | int value =>
      obtain ⟨character, member⟩ := List.exists_mem_of_ne_nil _ (Integer.characters_ne_nil value)
      have shown : (int value).display.toList = Integer.characters value := String.toList_ofList
      rw [← shown] at member
      exact Text.isBlankText_of_mem member
        (Integer.isBlank_of_mem_characters (shown ▸ member))
  | real value =>
      have member := List.head_mem (mt String.toList_eq_nil_iff.mp value.text_ne_empty)
      exact Text.isBlankText_of_mem member (Binary64.isBlank_of_mem_text member)
  | text value => exact Bool.eq_false_iff.mpr visible
  | timestamp written => exact Bool.eq_false_iff.mpr visible
  | list items =>
      have member : '[' ∈ (list items).display.toList := by simp [display, quoted]
      exact Text.isBlankText_of_mem member rfl
  | object entries =>
      have member : '\x7b' ∈ (object entries).display.toList := by simp [display, quoted]
      exact Text.isBlankText_of_mem member rfl

theorem trimmedText_eq_empty_iff {value : Value} : value.trimmedText = "" ↔ value.IsBlank := by
  by_cases blank : value.IsBlank
  · refine iff_of_true ?_ blank
    cases value with
    | null => rfl
    | text written => exact Text.trim_eq_empty_iff.mpr blank
    | timestamp written => exact Text.trim_eq_empty_iff.mpr blank
    | _ => exact absurd blank id
  · refine iff_of_false ?_ blank
    have shown : Text.trim value.display ≠ "" := by
      rw [ne_eq, Text.trim_eq_empty_iff, isBlankText_display_of_not_isBlank blank]
      exact Bool.false_ne_true
    cases value with
    | null => exact absurd trivial blank
    | _ => exact shown

end Value

end MediaSearch
