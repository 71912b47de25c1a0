import MediaSearch.Binary64.Text
import MediaSearch.Proofs.Integer.Digits

/-!
# Characters of numbers

A number is written with digits, points, signs and marks of exponents alone, and with at least one of
them.
-/

set_option autoImplicit false

namespace MediaSearch.Binary64

/-- Whether a character may stand in a number that is written in digits. -/
def isPart (character : Char) : Bool :=
  character.isDigit || "+-.eE".toList.contains character

theorem isPart_of_isDigit {character : Char} (digit : character.isDigit = true) :
    isPart character = true := by
  rw [isPart, digit, Bool.true_or]

theorem mem_paddedDigits {width value : Nat} {character : Char}
    (member : character ∈ Integer.paddedDigits width value) : character.isDigit = true := by
  rcases List.mem_append.mp member with padding | digit
  · rw [List.eq_of_mem_replicate padding]
    rfl
  · exact Integer.isDigit_of_mem_digits digit

theorem dropEndWhile_sublist (drops : Char → Bool) (characters : List Char) :
    (Text.dropEndWhile drops characters).Sublist characters := by
  rw [← List.reverse_reverse characters]
  unfold Text.dropEndWhile
  rw [List.reverse_reverse]
  exact (List.dropWhile_sublist drops).reverse

theorem isDigit_of_mem_significantDigits {digits : List Char}
    (allDigits : ∀ character ∈ digits, character.isDigit = true) :
    ∀ character ∈ significantDigits digits, character.isDigit = true := by
  intro character member
  unfold significantDigits at member
  split at member
  · rw [List.mem_singleton.mp member]
    rfl
  · exact allDigits character ((dropEndWhile_sublist _ _).subset member)

theorem significantDigits_ne_nil (digits : List Char) : significantDigits digits ≠ [] := by
  unfold significantDigits
  split
  · exact List.cons_ne_nil _ _
  · assumption

section Digits

variable {digits : List Char} (allDigits : ∀ character ∈ digits, character.isDigit = true)
include allDigits

theorem isPart_of_mem_positional {order : Int} :
    ∀ character ∈ positional digits order, isPart character = true := by
  intro character member
  unfold positional at member
  split at member
  · simp only [List.mem_cons, List.mem_append, List.mem_replicate] at member
    rcases member with (rfl | rfl | ⟨-, rfl⟩) | member
    · rfl
    · rfl
    · rfl
    · exact isPart_of_isDigit (allDigits character member)
  · simp only [List.mem_cons, List.mem_append, List.mem_replicate] at member
    rcases member with (member | ⟨-, rfl⟩) | rfl | member
    · exact isPart_of_isDigit (allDigits character (List.mem_of_mem_take member))
    · rfl
    · rfl
    · split at member
      · rw [List.mem_singleton.mp member]
        rfl
      · exact isPart_of_isDigit (allDigits character (List.mem_of_mem_drop member))

theorem isPart_of_mem_scientific {exponent : Int} :
    ∀ character ∈ scientific digits exponent, isPart character = true := by
  intro character member
  unfold scientific at member
  simp only [List.mem_append, List.mem_cons] at member
  rcases member with member | rfl | rfl | member
  · split at member
    · simp only [List.mem_cons] at member allDigits
      rcases member with rfl | rfl | rest
      · exact isPart_of_isDigit (allDigits _ (.inl rfl))
      · rfl
      · exact isPart_of_isDigit (allDigits _ (.inr rest))
    · exact isPart_of_isDigit (allDigits _ member)
  · rfl
  · split <;> rfl
  · exact isPart_of_isDigit (mem_paddedDigits member)

end Digits

namespace Finite

theorem isPart_of_mem_characters {layout : Layout} {number : Finite} {character : Char}
    (member : character ∈ number.characters layout) : isPart character = true := by
  have allDigits : ∀ digit ∈ significantDigits (Integer.digits number.shortest.1),
      digit.isDigit = true :=
    isDigit_of_mem_significantDigits fun _ => Integer.isDigit_of_mem_digits
  unfold characters at member
  dsimp only at member
  split at member
  · have written : ∀ character ∈ ['0', '.', '0'], isPart character = true := by
      rw [List.forall_mem_cons, List.forall_mem_cons, List.forall_mem_singleton]
      exact ⟨rfl, rfl, rfl⟩
    exact written character member
  · split at member
    · exact isPart_of_mem_positional allDigits character member
    · exact isPart_of_mem_scientific allDigits character member

theorem characters_ne_nil (layout : Layout) (number : Finite) : number.characters layout ≠ [] := by
  unfold characters
  dsimp only
  split
  · exact List.cons_ne_nil _ _
  · split
    · unfold positional
      split <;> simp
    · unfold scientific
      simp

end Finite

end MediaSearch.Binary64
