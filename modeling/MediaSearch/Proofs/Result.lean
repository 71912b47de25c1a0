/-!
# Results

A computation that may fail gives a value or an error. It succeeds exactly if each of its steps
does.
-/

set_option autoImplicit false

namespace MediaSearch.Result

variable {ε δ α β γ : Type}

theorem bind_eq_ok_iff {result : Except ε α} {next : α → Except ε β} {value : β} :
    (result >>= next) = .ok value ↔ ∃ middle, result = .ok middle ∧ next middle = .ok value := by
  constructor
  · intro succeeds
    cases result with
    | error error => cases succeeds
    | ok middle => exact ⟨middle, rfl, succeeds⟩
  · rintro ⟨middle, rfl, succeeds⟩
    exact succeeds

theorem bind_eq_error_iff {result : Except ε α} {next : α → Except ε β} {error : ε} :
    (result >>= next) = .error error ↔
      result = .error error ∨ ∃ middle, result = .ok middle ∧ next middle = .error error := by
  constructor
  · intro fails
    cases result with
    | error first =>
        cases fails
        exact .inl rfl
    | ok middle => exact .inr ⟨middle, rfl, fails⟩
  · rintro (rfl | ⟨middle, rfl, fails⟩)
    · rfl
    · exact fails

theorem map_eq_ok_iff {result : Except ε α} {change : α → β} {value : β} :
    result.map change = .ok value ↔ ∃ found, result = .ok found ∧ change found = value := by
  cases result <;> simp [Except.map]

theorem map_eq_error_iff {result : Except ε α} {change : α → β} {error : ε} :
    result.map change = .error error ↔ result = .error error := by
  cases result <;> simp [Except.map]

theorem pure_eq_ok_iff {value other : α} :
    (pure value : Except ε α) = .ok other ↔ value = other := by
  simp [pure, Except.pure]

theorem pure_ne_error (value : α) (error : ε) : (pure value : Except ε α) ≠ .error error :=
  fun impossible => nomatch impossible

theorem throw_bind (error : ε) (next : α → Except ε β) : (throw error >>= next) = throw error :=
  rfl

/-- What is refused under a condition succeeds only without it. -/
theorem refusal_eq_ok_iff {refused : Prop} [Decidable refused] {error : ε} {rest : Except ε α}
    {value : α} :
    (if refused then throw error else rest) = .ok value ↔ ¬ refused ∧ rest = .ok value := by
  by_cases holds : refused <;> simp [holds, throw, throwThe, MonadExceptOf.throw]

theorem refusal_eq_error_iff {refused : Prop} [Decidable refused] {error other : ε}
    {rest : Except ε α} :
    (if refused then throw error else rest) = .error other ↔
      refused ∧ error = other ∨ ¬ refused ∧ rest = .error other := by
  by_cases holds : refused <;> simp [holds, throw, throwThe, MonadExceptOf.throw]

theorem admission_eq_ok_iff {admitted : Prop} [Decidable admitted] {error : ε} {rest : Except ε α}
    {value : α} :
    (if admitted then rest else throw error) = .ok value ↔ admitted ∧ rest = .ok value := by
  by_cases holds : admitted <;> simp [holds, throw, throwThe, MonadExceptOf.throw]

theorem admission_eq_error_iff {admitted : Prop} [Decidable admitted] {error other : ε}
    {rest : Except ε α} :
    (if admitted then rest else throw error) = .error other ↔
      ¬ admitted ∧ error = other ∨ admitted ∧ rest = .error other := by
  by_cases holds : admitted <;> simp [holds, throw, throwThe, MonadExceptOf.throw]

theorem map_eq_of {result : Except ε α} {change : α → β} {changed : Except ε β}
    (succeeds : ∀ value, result = .ok value → changed = .ok (change value))
    (fails : ∀ error, result = .error error → changed = .error error) :
    result.map change = changed := by
  cases result with
  | error error => exact (fails error rfl).symm
  | ok value => exact (succeeds value rfl).symm

/-- The result, unless a check of its value fails. -/
def checked (result : Except ε α) (check : α → Except ε Unit) : Except ε α := do
  let value ← result
  check value
  return value

theorem checked_eq_ok_iff {result : Except ε α} {check : α → Except ε Unit} {value : α} :
    checked result check = .ok value ↔ result = .ok value ∧ check value = .ok () := by
  simp only [checked, bind_eq_ok_iff, pure_eq_ok_iff]
  constructor
  · rintro ⟨_, succeeds, _, passes, rfl⟩
    exact ⟨succeeds, passes⟩
  · rintro ⟨succeeds, passes⟩
    exact ⟨value, succeeds, (), passes, rfl⟩

theorem checked_eq_error_iff {result : Except ε α} {check : α → Except ε Unit} {error : ε} :
    checked result check = .error error ↔
      result = .error error ∨ ∃ value, result = .ok value ∧ check value = .error error := by
  simp only [checked, bind_eq_error_iff, pure_ne_error, and_false, exists_false, or_false]

/-- What holds of all values of a list that was worked through is what holds of all its items. -/
theorem forall_mem_iff_of_mapM {items : List α} {next : α → Except ε β} {values : List β}
    {ofItem : α → Prop} {ofValue : β → Prop}
    (same : ∀ item value, next item = .ok value → (ofValue value ↔ ofItem item))
    (done : items.mapM next = .ok values) :
    (∀ value ∈ values, ofValue value) ↔ ∀ item ∈ items, ofItem item := by
  induction items generalizing values with
  | nil =>
      cases done
      exact iff_of_true (List.forall_mem_nil _) (List.forall_mem_nil _)
  | cons item items ih =>
      rw [List.mapM_cons] at done
      obtain ⟨value, here, done⟩ := bind_eq_ok_iff.mp done
      obtain ⟨others, later, done⟩ := bind_eq_ok_iff.mp done
      cases done
      rw [List.forall_mem_cons, List.forall_mem_cons, same item value here, ih later]

theorem mapError_ok (change : ε → δ) (value : α) :
    (Except.ok value).mapError change = .ok value := rfl

theorem mapError_eq_ok_iff {result : Except ε α} {change : ε → δ} {value : α} :
    result.mapError change = .ok value ↔ result = .ok value := by
  constructor
  · intro succeeds
    cases result with
    | error error => cases succeeds
    | ok found =>
        cases succeeds
        rfl
  · rintro rfl
    exact mapError_ok change value

theorem mapError_eq_error_iff {result : Except ε α} {change : ε → δ} {error : δ} :
    result.mapError change = .error error ↔
      ∃ original, result = .error original ∧ change original = error := by
  constructor
  · intro fails
    cases result with
    | ok value => cases fails
    | error original =>
        cases fails
        exact ⟨original, rfl, rfl⟩
  · rintro ⟨original, rfl, rfl⟩
    rfl

/-- The error of a computation that fails. -/
def error? : Except ε α → Option ε
  | .error error => some error
  | .ok _ => none

theorem error?_eq_some_iff {result : Except ε α} {error : ε} :
    error? result = some error ↔ result = .error error := by
  cases result <;> simp [error?]

theorem error?_eq_none_iff {result : Except ε α} :
    error? result = none ↔ ∃ value, result = .ok value := by
  cases result <;> simp [error?]

/-- A computation of two steps fails with the first error. -/
theorem error?_bind {result : Except ε α} {next : α → Except ε β} {later : Option ε}
    (same : ∀ value, error? (next value) = later) :
    error? (result >>= next) = (error? result).or later := by
  cases result with
  | error error => rfl
  | ok value => exact same value

theorem error?_map (result : Except ε α) (change : α → β) :
    error? (result.map change) = error? result := by
  cases result <;> rfl

theorem error?_bind_pure (result : Except ε α) (change : α → β) :
    error? (result >>= fun value => pure (change value)) = error? result := by
  cases result <;> rfl

theorem error?_mapM (value : Option α) (next : α → Except ε β) :
    error? (value.mapM next) = value.toList.findSome? fun inner => error? (next inner) := by
  cases value with
  | none => rfl
  | some inner =>
      change error? ((next inner).map some) = _
      rw [error?_map, Option.toList_some, List.findSome?_singleton]

theorem isSome_of_mapM_eq_ok {value : Option α} {next : α → Except ε β} {result : Option β}
    (read : value.mapM next = .ok result) : result.isSome = value.isSome := by
  cases value with
  | none =>
      cases read
      rfl
  | some value =>
      change (next value).map some = .ok result at read
      cases done : next value with
      | error error =>
          rw [done] at read
          cases read
      | ok found =>
          rw [done] at read
          cases read
          rfl

end MediaSearch.Result
