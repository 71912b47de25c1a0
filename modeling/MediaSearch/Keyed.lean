/-!
# Named values in order

Lists of named values in which each name stands once. A new name comes last, and setting an old
one again keeps its place.
-/

set_option autoImplicit false

namespace MediaSearch.Keyed

variable {κ α : Type} [BEq κ]

def put (pairs : List (κ × α)) (name : κ) (value : α) : List (κ × α) :=
  match pairs with
  | [] => [(name, value)]
  | (other, old) :: rest =>
      if other == name then (other, value) :: rest else (other, old) :: put rest name value

/-- Named values in order of writing, where the last value under a name counts. -/
def ofList (written : List (κ × α)) : List (κ × α) :=
  written.foldl (fun pairs pair => put pairs pair.1 pair.2) []

theorem lookup_put [LawfulBEq κ] (pairs : List (κ × α)) (name other : κ) (value : α) :
    (put pairs name value).lookup other =
      if other == name then some value else pairs.lookup other := by
  induction pairs with
  | nil => cases same : other == name <;> simp [put, List.lookup_cons, same]
  | cons pair rest ih =>
      obtain ⟨first, old⟩ := pair
      cases wanted : other == first with
      | true =>
          obtain rfl := eq_of_beq wanted
          cases same : other == name <;> simp [put, same]
      | false =>
          cases same : first == name with
          | true =>
              obtain rfl := eq_of_beq same
              simp [put, List.lookup_cons, wanted]
          | false => simp [put, List.lookup_cons, wanted, same, ih]

theorem lookup_eq_none_of_fresh [LawfulBEq κ] {pairs : List (κ × α)} {name : κ}
    (fresh : name ∉ pairs.map (·.1)) : pairs.lookup name = none := by
  rw [List.lookup_eq_none_iff]
  intro pair member
  rw [bne_iff_ne]
  intro same
  exact fresh (List.mem_map.mpr ⟨pair, member, same.symm⟩)

theorem lookup_filterMap [LawfulBEq κ] {ι : Type} {name : ι → κ}
    {value : ι → Option α} {items : List ι} (distinct : (items.map name).Nodup) {item : ι}
    (member : item ∈ items) :
    (items.filterMap fun other => (value other).map (name other, ·)).lookup (name item) =
      value item := by
  induction items with
  | nil => cases member
  | cons first rest ih =>
      obtain ⟨fresh, distinct⟩ := List.nodup_cons.mp distinct
      rw [List.filterMap_cons]
      cases List.mem_cons.mp member with
      | inl here =>
          subst here
          cases held : value item with
          | some found => exact List.lookup_cons_self
          | none =>
              apply lookup_eq_none_of_fresh
              intro present
              obtain ⟨pair, found, same⟩ := List.mem_map.mp present
              obtain ⟨other, otherMember, paired⟩ := List.mem_filterMap.mp found
              obtain ⟨_, _, rfl⟩ := Option.map_eq_some_iff.mp paired
              exact fresh (List.mem_map.mpr ⟨other, otherMember, same⟩)
      | inr later =>
          have different : (name item == name first) = false := by
            apply beq_false_of_ne
            intro same
            exact fresh (List.mem_map.mpr ⟨item, later, same⟩)
          cases value first with
          | some found =>
              rw [Option.map_some]
              simp only [List.lookup_cons, different]
              exact ih distinct later
          | none => exact ih distinct later

omit [BEq κ] in
/-- What is named where there is a value keeps the order of the names. -/
theorem map_fst_filterMap_sublist {ι : Type} (name : ι → κ) (value : ι → Option α)
    (items : List ι) :
    ((items.filterMap fun item => (value item).map (name item, ·)).map (·.1)).Sublist
      (items.map name) := by
  induction items with
  | nil => exact List.Sublist.refl _
  | cons item rest ih =>
      cases held : value item with
      | none =>
          rw [List.filterMap_cons_none (by rw [held]; rfl)]
          exact ih.cons _
      | some found =>
          rw [List.filterMap_cons_some (by rw [held]; rfl)]
          exact ih.cons_cons _

theorem map_fst_put [LawfulBEq κ] (pairs : List (κ × α)) (name : κ) (value : α) :
    (put pairs name value).map (·.1) =
      if (pairs.map (·.1)).contains name then pairs.map (·.1) else pairs.map (·.1) ++ [name] := by
  induction pairs with
  | nil => rfl
  | cons pair rest ih =>
      obtain ⟨first, old⟩ := pair
      cases same : first == name with
      | true =>
          obtain rfl := eq_of_beq same
          simp [put]
      | false =>
          have distinct : (name == first) = false := by
            rw [Bool.beq_comm]
            exact same
          cases present : (rest.map (·.1)).contains name with
          | true => simp_all [put]
          | false => simp_all [put]

theorem put_of_fresh [LawfulBEq κ] {pairs : List (κ × α)} {name : κ} (value : α)
    (fresh : name ∉ pairs.map (·.1)) : put pairs name value = pairs ++ [(name, value)] := by
  induction pairs with
  | nil => rfl
  | cons pair rest ih =>
      obtain ⟨first, old⟩ := pair
      simp only [List.map_cons, List.mem_cons, not_or] at fresh
      obtain ⟨distinct, fresh⟩ := fresh
      have different : ¬(first == name) = true := fun same => distinct (eq_of_beq same).symm
      rw [put, if_neg different, ih fresh, List.cons_append]

private theorem foldl_put_of_nodup [LawfulBEq κ] (written pairs : List (κ × α))
    (distinct : ((pairs ++ written).map (·.1)).Nodup) :
    written.foldl (fun pairs pair => put pairs pair.1 pair.2) pairs = pairs ++ written := by
  induction written generalizing pairs with
  | nil => rw [List.foldl_nil, List.append_nil]
  | cons pair written ih =>
      have fresh : pair.1 ∉ pairs.map (·.1) := by
        rw [List.map_append, List.nodup_append] at distinct
        exact fun old => distinct.2.2 _ old _ (.head _) rfl
      have split : pairs ++ pair :: written = pairs ++ [pair] ++ written := by
        rw [List.append_assoc, List.singleton_append]
      rw [List.foldl_cons, put_of_fresh pair.2 fresh, split]
      exact ih _ (split ▸ distinct)

/-- Where no name is written twice, all is kept as written. -/
theorem ofList_of_nodup [LawfulBEq κ] {written : List (κ × α)}
    (distinct : (written.map (·.1)).Nodup) : ofList written = written :=
  foldl_put_of_nodup written [] distinct

end MediaSearch.Keyed
