import Mathlib.Data.List.Basic
import MediaSearch.Filter.Structured

/-!
# Filters by their fields

A filter is known from what is in its fields. Setting a field changes no other, so what assignments
leave in a field is the last that was assigned to it.
-/

set_option autoImplicit false

namespace MediaSearch

namespace Scalar

theorem int_inj {left right : Int} : int left = int right ↔ left = right := by
  simp [int]

theorem map_text_inj {left right : Option String} :
    left.map Scalar.text = right.map Scalar.text ↔ left = right :=
  (Option.map_injective fun _ _ same => Scalar.text.inj same).eq_iff

theorem map_number_inj {left right : Option Number} :
    left.map Scalar.number = right.map Scalar.number ↔ left = right :=
  (Option.map_injective fun _ _ same => Scalar.number.inj same).eq_iff

theorem map_bool_inj {left right : Option Bool} :
    left.map Scalar.bool = right.map Scalar.bool ↔ left = right :=
  (Option.map_injective fun _ _ same => Scalar.bool.inj same).eq_iff

theorem map_int_inj {left right : Option Int} :
    left.map Scalar.int = right.map Scalar.int ↔ left = right :=
  (Option.map_injective fun _ _ same => int_inj.mp same).eq_iff

end Scalar

namespace Filter

theorem ext_get {left right : Filter} (same : ∀ field, left.get field = right.get field) :
    left = right := by
  cases left
  cases right
  simp only [mk.injEq]
  exact ⟨Scalar.map_text_inj.mp (same .type), Scalar.map_text_inj.mp (same .sectionId),
    Scalar.map_text_inj.mp (same .title), Scalar.map_int_inj.mp (same .year),
    Scalar.map_int_inj.mp (same .minYear), Scalar.map_int_inj.mp (same .maxYear),
    Scalar.map_int_inj.mp (same .decade), Scalar.map_text_inj.mp (same .genre),
    Scalar.map_text_inj.mp (same .contentRating), Scalar.map_number_inj.mp (same .minRating),
    Scalar.map_number_inj.mp (same .maxRating), Scalar.map_text_inj.mp (same .director),
    Scalar.map_text_inj.mp (same .actor), Scalar.map_text_inj.mp (same .studio),
    Scalar.map_bool_inj.mp (same .unwatched), Scalar.map_bool_inj.mp (same .watched),
    Scalar.map_bool_inj.mp (same .inProgress), Scalar.map_number_inj.mp (same .minMinutes),
    Scalar.map_number_inj.mp (same .maxMinutes), Scalar.map_number_inj.mp (same .addedWithinDays),
    Scalar.map_text_inj.mp (same .resolution), Scalar.map_text_inj.mp (same .sort),
    Scalar.map_text_inj.mp (same .sortOrder), Scalar.map_int_inj.mp (same .limit)⟩

@[simp] theorem get_empty (field : Field) : get {} field = none := by
  cases field <;> rfl

/-- A field takes a scalar of its type: once set, it is found there. -/
def Field.Takes (field : Field) (scalar : Scalar) : Prop :=
  ∀ filter : Filter, (filter.set field scalar).get field = some scalar

theorem get_set_of_ne {filter : Filter} {field other : Field} (scalar : Scalar)
    (different : other ≠ field) : (filter.set field scalar).get other = filter.get other := by
  fun_cases Filter.set filter field scalar <;> cases other <;>
    first | rfl | exact absurd rfl different

/-- After assignments that the fields take, a field holds the last one to it, or what it held. -/
theorem get_foldl_set {assigned : List (Field × Scalar)}
    (taken : ∀ assignment ∈ assigned, assignment.1.Takes assignment.2) (start : Filter)
    (field : Field) :
    (assigned.foldl (fun filter assignment => filter.set assignment.1 assignment.2) start).get
        field = (assigned.reverse.lookup field).or (start.get field) := by
  induction assigned generalizing start with
  | nil => rfl
  | cons assignment assigned ih =>
      obtain ⟨target, scalar⟩ := assignment
      have headTaken : target.Takes scalar := taken _ (.head _)
      have tailTaken := fun later member => taken later (.tail _ member)
      rw [List.foldl_cons, ih tailTaken, List.reverse_cons, List.lookup_append, Option.or_assoc]
      congr 1
      by_cases here : field = target
      · subst here
        rw [headTaken start, List.lookup_cons_self, Option.some_or]
      · rw [get_set_of_ne _ here, List.lookup_cons, beq_false_of_ne here]
        rfl

theorem get_ofAssignments {assigned : List (Field × Scalar)}
    (taken : ∀ assignment ∈ assigned, assignment.1.Takes assignment.2) (field : Field) :
    (ofAssignments assigned).get field = assigned.reverse.lookup field := by
  rw [ofAssignments, get_foldl_set taken, get_empty, Option.or_none]

end Filter

end MediaSearch
