import MediaSearch.Proofs.Filter.Fields

/-!
# What fields admit

Every field of a structured filter takes values of one kind, and some fields take only texts of a
closed set. A value that a field does not admit is refused with a reason that names its place.
-/

set_option autoImplicit false

namespace MediaSearch.Filter

namespace Field

def kind : Field → ValueKind
  | .year | .minYear | .maxYear | .decade | .limit => .integer
  | .unwatched | .watched | .inProgress => .truthValue
  | .minRating | .maxRating | .minMinutes | .maxMinutes | .addedWithinDays => .number
  | .type | .sectionId | .title | .genre | .contentRating | .director | .actor | .studio
  | .resolution | .sort | .sortOrder => .text

/-- The closed set that the texts of a field come from, if there is one. -/
def choices? : Field → Option (List String)
  | .type => some Vocabulary.mediaTypes
  | .resolution => some Vocabulary.resolutions
  | .sort => some Vocabulary.sortFields
  | .sortOrder => some Vocabulary.sortOrders
  | _ => none

/-- What a field holds for a value, if it admits the value. A truth value is no number, and an
integer is a number. A section may also be named by an integer, and is then held as its digits. -/
def admitted? (field : Field) : Value → Option Scalar
  | .text text =>
      if field.kind = .text ∧ ∀ choices ∈ field.choices?, text ∈ choices then some (.text text)
      else none
  | .bool value => if field.kind = .truthValue then some (.bool value) else none
  | .int value =>
      if field = .sectionId then some (.text (Integer.text value))
      else if field.kind = .integer ∨ field.kind = .number then some (.int value)
      else none
  | .real value => if field.kind = .number then some (.number (.real value)) else none
  | _ => none

/-- Why a field does not admit a value: a text is not among the choices, or the value is not of the
kind. -/
def complaint (field : Field) (path : String) (value : Value) : ValueError :=
  match field.choices?, value with
  | some choices, .text _ => .notAllowed path choices
  | _, _ => .wrongKind path field.kind

theorem exists_message_complaint (field : Field) (path : String) (value : Value) :
    ∃ demand, (field.complaint path value).message = path ++ " must be " ++ demand := by
  unfold complaint
  split
  · rename_i choices _ _
    have split : " must be one of " = " must be " ++ "one of " := rfl
    refine ⟨"one of " ++ Text.quotedList choices, ?_⟩
    simp only [ValueError.message, split, String.append_assoc]
  · exact ⟨_, rfl⟩

theorem takes_of_admitted? {field : Field} {value : Value} {scalar : Scalar}
    (admitted : field.admitted? value = some scalar) : field.Takes scalar := by
  intro filter
  cases value with
  | text text =>
      simp only [admitted?, Option.ite_none_right_eq_some, Option.some.injEq] at admitted
      obtain ⟨⟨kind, _⟩, rfl⟩ := admitted
      cases field
      case type | sectionId | title | genre | contentRating | director | actor | studio
        | resolution | sort | sortOrder => rfl
      all_goals cases kind
  | bool flag =>
      simp only [admitted?, Option.ite_none_right_eq_some, Option.some.injEq] at admitted
      obtain ⟨kind, rfl⟩ := admitted
      cases field
      case unwatched | watched | inProgress => rfl
      all_goals cases kind
  | int number =>
      cases field <;> cases admitted <;> rfl
  | real number =>
      simp only [admitted?, Option.ite_none_right_eq_some, Option.some.injEq] at admitted
      obtain ⟨kind, rfl⟩ := admitted
      cases field
      case minRating | maxRating | minMinutes | maxMinutes | addedWithinDays => rfl
      all_goals cases kind
  | null | timestamp | list | object => cases admitted

end Field

private theorem expectChoice_eq (path : String) (choices : List String) (value : Value) :
    (value.expectChoice path choices).map Scalar.text =
      match value with
      | .text text =>
          if text ∈ choices then .ok (.text text) else .error (.notAllowed path choices)
      | _ => .error (.wrongKind path .text) := by
  cases value with
  | text text =>
      by_cases allowed : text ∈ choices <;>
        simp [Value.expectChoice, Value.expectText, Except.bind, Except.map, allowed]
  | _ => rfl

/-- A field is checked by what it admits. -/
theorem checkField_eq (path : String) (value : Value) (field : Field) :
    checkField path value field =
      match field.admitted? value with
      | some scalar => .ok scalar
      | none => .error (field.complaint path value) := by
  cases field
  case type | resolution | sort | sortOrder =>
    rw [checkField, expectChoice_eq]
    cases value with
    | text text =>
        simp only [Field.admitted?, Field.kind, Field.choices?, Field.complaint, true_and,
          Option.mem_some_iff, forall_eq']
        split <;> rfl
    | _ => rfl
  all_goals cases value <;> rfl

end MediaSearch.Filter
