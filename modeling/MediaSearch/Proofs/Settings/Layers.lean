import Mathlib.Data.List.Basic
import MediaSearch.Settings.Layers

/-!
# Keys in layers

What stands under a key after one layer was laid over another depends on what stands under that key
in both of them, and on no other key. The keys are those of the base, followed by the new ones.
-/

set_option autoImplicit false

namespace MediaSearch

theorem Value.laidOver_none (value : Value) : value.laidOver none = value := by
  cases value <;> rfl

namespace Entries

/-- Each key stands once. -/
def Distinct (entries : Entries) : Prop :=
  (entries.map (·.1)).Nodup

instance (entries : Entries) : Decidable entries.Distinct :=
  inferInstanceAs (Decidable (List.Nodup _))

theorem lookup_overlay {top : Entries} (distinct : top.Distinct) (base : Entries) (key : String) :
    (overlay base top).lookup key =
      match top.lookup key with
      | some value => some (value.laidOver (base.lookup key))
      | none => base.lookup key := by
  unfold overlay
  -- The base takes in one entry of the top after the other.
  induction top generalizing base with
  | nil => rfl
  | cons entry rest ih =>
      obtain ⟨name, value⟩ := entry
      obtain ⟨fresh, distinct⟩ := List.nodup_cons.mp distinct
      rw [layered, ih distinct, Keyed.lookup_put, List.lookup_cons]
      by_cases here : key = name
      · subst here
        rw [beq_self_eq_true, Keyed.lookup_eq_none_of_fresh fresh]
        rfl
      · rw [beq_false_of_ne here]
        rfl

theorem map_fst_overlay {top : Entries} (distinct : top.Distinct) (base : Entries) :
    (overlay base top).map (·.1) =
      base.map (·.1) ++ (top.map (·.1)).filter (· ∉ base.map (·.1)) := by
  unfold overlay
  induction top generalizing base with
  | nil => exact (List.append_nil _).symm
  | cons entry rest ih =>
      obtain ⟨name, value⟩ := entry
      obtain ⟨fresh, distinct⟩ := List.nodup_cons.mp distinct
      rw [layered, ih distinct, Keyed.map_fst_put, List.map_cons]
      by_cases known : name ∈ base.map (·.1)
      · rw [if_pos (List.contains_iff_mem.mpr known),
          List.filter_cons_of_neg (by simpa using known)]
      · have others : (rest.map (·.1)).filter (· ∉ base.map (·.1) ++ [name]) =
            (rest.map (·.1)).filter (· ∉ base.map (·.1)) := by
          apply List.filter_congr
          intro key member
          have different : key ≠ name := fun same => fresh (same ▸ member)
          simp [different]
        rw [if_neg (by simpa using known), others, List.filter_cons_of_pos (by simpa using known),
          List.append_assoc, List.singleton_append]

theorem map_fst_overlay_of_subset {base top : Entries} (distinct : top.Distinct)
    (known : top.map (·.1) ⊆ base.map (·.1)) :
    (overlay base top).map (·.1) = base.map (·.1) := by
  have noneNew : (top.map (·.1)).filter (· ∉ base.map (·.1)) = [] := by
    apply List.filter_eq_nil_iff.mpr
    intro key member
    simpa using known member
  rw [map_fst_overlay distinct, noneNew, List.append_nil]

theorem map_fst_subset_overlay {top : Entries} (distinct : top.Distinct) (base : Entries) :
    top.map (·.1) ⊆ (overlay base top).map (·.1) := by
  intro key member
  rw [map_fst_overlay distinct, List.mem_append]
  by_cases known : key ∈ base.map (·.1)
  · exact .inl known
  · exact .inr (List.mem_filter.mpr ⟨member, decide_eq_true known⟩)

theorem distinct_overlay {base top : Entries} (baseDistinct : base.Distinct)
    (topDistinct : top.Distinct) : (overlay base top).Distinct := by
  unfold Distinct
  rw [map_fst_overlay topDistinct]
  apply List.nodup_append.mpr
  refine ⟨baseDistinct, topDistinct.filter _, ?_⟩
  rintro key known _ new rfl
  simp only [List.mem_filter, decide_eq_true_eq] at new
  exact new.2 known

/-- Entries in which each key stands once are known by their keys and what stands under them. -/
theorem ext_lookup {left right : Entries} (distinct : left.Distinct)
    (keys : left.map (·.1) = right.map (·.1))
    (values : ∀ key, left.lookup key = right.lookup key) : left = right := by
  induction left generalizing right with
  | nil => exact (List.map_eq_nil_iff.mp keys.symm).symm
  | cons entry rest ih =>
      obtain ⟨name, value⟩ := entry
      obtain ⟨fresh, distinct⟩ := List.nodup_cons.mp distinct
      cases right with
      | nil => cases keys
      | cons other others =>
          obtain ⟨first, found⟩ := other
          obtain ⟨same, later⟩ := List.cons.inj keys
          obtain rfl : name = first := same
          have here := values name
          rw [List.lookup_cons_self, List.lookup_cons_self] at here
          obtain rfl := Option.some.inj here
          rw [ih distinct later]
          intro key
          by_cases here : key = name
          · subst here
            rw [Keyed.lookup_eq_none_of_fresh fresh,
              Keyed.lookup_eq_none_of_fresh (later ▸ fresh)]
          · have there := values key
            rwa [List.lookup_cons, List.lookup_cons, beq_false_of_ne here] at there

theorem overlay_empty_left {top : Entries} (distinct : top.Distinct) : overlay [] top = top := by
  apply ext_lookup
  · exact distinct_overlay List.nodup_nil distinct
  · rw [map_fst_overlay distinct]
    simp
  · intro key
    rw [lookup_overlay distinct]
    cases top.lookup key with
    | none => rfl
    | some value => exact congrArg some value.laidOver_none

end Entries

end MediaSearch
