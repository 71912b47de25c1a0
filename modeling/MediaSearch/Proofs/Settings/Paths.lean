import MediaSearch.Proofs.Settings.Layers

/-!
# Paths through layers

Objects inside objects are laid over one another as deep as both layers hold objects. What the
merged layer holds at the end of a path is told by what the two layers hold there.
-/

set_option autoImplicit false

namespace MediaSearch

namespace Value

def IsPlain (value : Value) : Prop :=
  ∀ entries, value ≠ .object entries

/-- What stands at the end of a path of keys, where every key but the last must lead to an
object. -/
def under? (value : Value) : List String → Option Value
  | [] => some value
  | key :: rest =>
      match value with
      | .object entries => (entries.lookup key).bind (under? · rest)
      | _ => none

/-- Each key stands once, in the objects under keys as well. -/
inductive Distinct : Value → Prop where
  | plain {value : Value} : value.IsPlain → Distinct value
  | object {entries : Entries} :
      entries.Distinct → (∀ entry ∈ entries, Distinct entry.2) → Distinct (.object entries)

/-- The entries of an object, and none of anything else. -/
def entriesOf : Option Value → Entries
  | some (.object entries) => entries
  | _ => []

/-!
## Laying a layer over what it was laid over
-/

theorem mem_of_lookup {entries : Entries} {key : String} {value : Value}
    (held : entries.lookup key = some value) : (key, value) ∈ entries := by
  obtain ⟨before, after, rfl, _⟩ := List.lookup_eq_some_iff.mp held
  exact List.mem_append_right before List.mem_cons_self

theorem Distinct.entries {entries : Entries} (distinct : (Value.object entries).Distinct) :
    entries.Distinct := by
  cases distinct with
  | plain plain => exact absurd rfl (plain entries)
  | object distinct _ => exact distinct

theorem Distinct.of_mem {entries : Entries} (distinct : (Value.object entries).Distinct) :
    ∀ entry ∈ entries, entry.2.Distinct := by
  cases distinct with
  | plain plain => exact absurd rfl (plain entries)
  | object _ inner => exact inner

theorem Distinct.of_lookup {entries : Entries} (distinct : (Value.object entries).Distinct)
    {key : String} {value : Value} (held : entries.lookup key = some value) : value.Distinct :=
  distinct.of_mem _ (mem_of_lookup held)

theorem distinct_nil : (Value.object []).Distinct :=
  .object List.nodup_nil (List.forall_mem_nil _)

theorem Distinct.cons {entries : Entries} (distinct : (Value.object entries).Distinct)
    {key : String} (fresh : key ∉ entries.map (·.1)) {value : Value} (inner : value.Distinct) :
    (Value.object ((key, value) :: entries)).Distinct :=
  .object (List.nodup_cons.mpr ⟨fresh, distinct.entries⟩)
    (List.forall_mem_cons.mpr ⟨inner, distinct.of_mem⟩)

theorem Distinct.single {value : Value} (distinct : value.Distinct) (key : String) :
    (Value.object [(key, value)]).Distinct :=
  distinct_nil.cons List.not_mem_nil distinct

theorem distinct_entriesOf {below : Option Value} (distinct : ∀ lower ∈ below, lower.Distinct) :
    (Value.object (entriesOf below)).Distinct := by
  unfold entriesOf
  split
  · exact distinct _ rfl
  · exact distinct_nil

theorem IsPlain.laidOver_eq {value : Value} (plain : value.IsPlain) (below : Option Value) :
    value.laidOver below = value := by
  cases value with
  | object entries => exact absurd rfl (plain entries)
  | _ => rfl

theorem laidOver_of_no_object {value : Value} {below : Option Value}
    (noObject : ∀ lower, below ≠ some (.object lower)) : value.laidOver below = value := by
  unfold laidOver
  split
  · split
    · exact absurd rfl (noObject _)
    · rfl
  · rfl

/-- An object is laid over the entries below it, which are none if there is no object. -/
theorem laidOver_object {entries : Entries} (distinct : entries.Distinct)
    (below : Option Value) :
    (Value.object entries).laidOver below = .object ((entriesOf below).overlay entries) := by
  cases below with
  | none => exact congrArg Value.object (Entries.overlay_empty_left distinct).symm
  | some below =>
      cases below with
      | object base => rfl
      | _ => exact congrArg Value.object (Entries.overlay_empty_left distinct).symm

theorem Distinct.laidOver_laidOver {value : Value} (distinct : value.Distinct)
    {below : Option Value} (belowDistinct : ∀ lower ∈ below, lower.Distinct) :
    value.laidOver (some (value.laidOver below)) = value.laidOver below := by
  -- What lies below a key is another value, so that it must not be fixed.
  induction distinct generalizing below with
  | plain plain => rw [plain.laidOver_eq, plain.laidOver_eq]
  | @object entries distinct inner ih =>
      have baseDistinct := distinct_entriesOf belowDistinct
      have merged := Entries.distinct_overlay baseDistinct.entries distinct
      rw [laidOver_object distinct below, laidOver_object distinct, entriesOf]
      apply congrArg Value.object
      apply Entries.ext_lookup
      · exact Entries.distinct_overlay merged distinct
      · exact Entries.map_fst_overlay_of_subset distinct
          (Entries.map_fst_subset_overlay distinct _)
      · intro key
        rw [Entries.lookup_overlay distinct, Entries.lookup_overlay distinct]
        cases held : entries.lookup key with
        | none => rfl
        | some value =>
            apply congrArg some
            exact ih _ (mem_of_lookup held) fun lower found => baseDistinct.of_lookup found

theorem Distinct.laidOver_self {value : Value} (distinct : value.Distinct) :
    value.laidOver (some value) = value := by
  have again : value.laidOver (some (value.laidOver none)) = value.laidOver none :=
    distinct.laidOver_laidOver (by simp)
  rwa [laidOver_none] at again

/-!
## What stands at the end of a path
-/

theorem under?_append (value : Value) (path rest : List String) :
    value.under? (path ++ rest) = (value.under? path).bind (·.under? rest) := by
  induction path generalizing value with
  | nil => rfl
  | cons key path ih =>
      cases value with
      | object entries =>
          rw [List.cons_append, under?, under?, Option.bind_assoc]
          apply congrArg
          exact funext ih
      | _ => rfl

theorem under?_cons_eq_some_iff {value found : Value} {key : String} {rest : List String} :
    value.under? (key :: rest) = some found ↔
      ∃ entries inner, value = .object entries ∧ entries.lookup key = some inner ∧
        inner.under? rest = some found := by
  cases value with
  | object entries => simp [under?, Option.bind_eq_some_iff]
  | _ => simp [under?]

theorem Distinct.under? {value found : Value} (distinct : value.Distinct) {path : List String}
    (holds : value.under? path = some found) : found.Distinct := by
  induction path generalizing value with
  | nil => exact Option.some.inj holds ▸ distinct
  | cons key rest ih =>
      obtain ⟨entries, inner, rfl, held, innerHolds⟩ := under?_cons_eq_some_iff.mp holds
      exact ih (distinct.of_lookup held) innerHolds

theorem bind_under?_cons (below : Option Value) (key : String) (rest : List String) :
    below.bind (·.under? (key :: rest)) =
      ((entriesOf below).lookup key).bind (·.under? rest) := by
  cases below with
  | none => rfl
  | some below => cases below <;> rfl

/-- Where both layers hold objects, the merged layer holds the one laid over the other. -/
theorem under?_laidOver_of_objects {top base : Value} (distinct : top.Distinct)
    {path : List String} {upper lower : Entries}
    (topHolds : top.under? path = some (.object upper))
    (baseHolds : base.under? path = some (.object lower)) :
    (top.laidOver (some base)).under? path = some (.object (lower.overlay upper)) := by
  induction path generalizing top base with
  | nil =>
      obtain rfl := Option.some.inj topHolds
      obtain rfl := Option.some.inj baseHolds
      rfl
  | cons key rest ih =>
      obtain ⟨entries, inner, rfl, held, innerHolds⟩ := under?_cons_eq_some_iff.mp topHolds
      obtain ⟨below, lowerInner, rfl, lowerHeld, lowerHolds⟩ :=
        under?_cons_eq_some_iff.mp baseHolds
      have merged := Entries.lookup_overlay distinct.entries below key
      rw [held, lowerHeld] at merged
      exact under?_cons_eq_some_iff.mpr
        ⟨_, _, rfl, merged, ih (distinct.of_lookup held) innerHolds lowerHolds⟩

/-- Where only one of the layers holds an object, or none does, the top layer's value stands. -/
theorem under?_laidOver_of_top {top value : Value} (distinct : top.Distinct)
    {below : Option Value} {path : List String} (topHolds : top.under? path = some value)
    (apart : value.IsPlain ∨ ∀ lower, below.bind (·.under? path) ≠ some (.object lower)) :
    (top.laidOver below).under? path = some value := by
  induction path generalizing top below with
  | nil =>
      obtain rfl := Option.some.inj topHolds
      apply congrArg some
      cases apart with
      | inl plain => exact plain.laidOver_eq below
      | inr noObject =>
          apply laidOver_of_no_object
          rintro lower rfl
          exact noObject lower rfl
  | cons key rest ih =>
      obtain ⟨entries, inner, rfl, held, innerHolds⟩ := under?_cons_eq_some_iff.mp topHolds
      have merged := Entries.lookup_overlay distinct.entries (entriesOf below) key
      rw [held] at merged
      rw [bind_under?_cons] at apart
      rw [laidOver_object distinct.entries]
      exact under?_cons_eq_some_iff.mpr
        ⟨_, _, rfl, merged, ih (distinct.of_lookup held) innerHolds apart⟩

end Value

/-- The merged layer holds what the top layer holds, unless both hold objects. There it holds the
keys of the base and then the new ones, and under each key that the top layer lacks what the base
holds. Empty layers add nothing, and neither does a layer that is already there. -/
theorem Entries.overlay_laws {base top : Entries} (baseDistinct : (Value.object base).Distinct)
    (topDistinct : (Value.object top).Distinct) :
    (∀ path value, (Value.object top).under? path = some value →
      (value.IsPlain ∨ ∀ lower, (Value.object base).under? path ≠ some (.object lower)) →
      (Value.object (base.overlay top)).under? path = some value) ∧
    (∀ path (lower upper : Entries), (Value.object base).under? path = some (.object lower) →
      (Value.object top).under? path = some (.object upper) →
      (∃ merged, (Value.object (base.overlay top)).under? path = some (.object merged) ∧
        merged.map (·.1) =
          lower.map (·.1) ++ (upper.map (·.1)).filter (· ∉ lower.map (·.1))) ∧
      ∀ key rest, upper.lookup key = none →
        (Value.object (base.overlay top)).under? (path ++ key :: rest) =
          (Value.object base).under? (path ++ key :: rest)) ∧
    base.overlay [] = base ∧ overlay [] top = top ∧ base.overlay base = base ∧
    (base.overlay top).overlay top = base.overlay top := by
  have laid : (Value.object top).laidOver (some (.object base)) = .object (base.overlay top) := rfl
  refine ⟨?_, ?_, rfl, overlay_empty_left topDistinct.entries, ?_, ?_⟩
  · intro path value topHolds apart
    exact laid ▸ Value.under?_laidOver_of_top topDistinct topHolds apart
  · intro path lower upper baseHolds topHolds
    have merged := laid ▸ Value.under?_laidOver_of_objects topDistinct topHolds baseHolds
    have upperDistinct := (topDistinct.under? topHolds).entries
    refine ⟨⟨_, merged, map_fst_overlay upperDistinct lower⟩, ?_⟩
    intro key rest missing
    rw [Value.under?_append, Value.under?_append, merged, baseHolds, Option.bind_some,
      Option.bind_some, Value.under?, Value.under?, lookup_overlay upperDistinct, missing]
  · exact Value.object.inj baseDistinct.laidOver_self
  · have belowDistinct : ∀ lower ∈ some (Value.object base), lower.Distinct := by
      rintro lower ⟨⟩
      exact baseDistinct
    exact Value.object.inj (topDistinct.laidOver_laidOver belowDistinct)

/-- An empty value replaces a number, and what the top layer lacks stays beside it. -/
theorem overlay_laws_of_server :
    (Value.object
      [("server", .object [("url", .text "http://a"), ("timeout", .int 15)])]).Distinct ∧
    (Value.object [("server", .object [("timeout", .null)])]).Distinct ∧
    (Value.object (Entries.overlay
        [("server", .object [("url", .text "http://a"), ("timeout", .int 15)])]
        [("server", .object [("timeout", .null)])])).under? ["server", "timeout"] = some .null ∧
    (Value.object (Entries.overlay
        [("server", .object [("url", .text "http://a"), ("timeout", .int 15)])]
        [("server", .object [("timeout", .null)])])).under? ["server", "url"] =
      some (.text "http://a") := by
  have url : (Value.text "http://a").Distinct := .plain (by rintro _ ⟨⟩)
  have timeout : (Value.int 15).Distinct := .plain (by rintro _ ⟨⟩)
  have nothing : Value.null.IsPlain := by rintro _ ⟨⟩
  have baseDistinct := (timeout.single "timeout").cons (by decide : "url" ∉ _) url
  have topDistinct := ((Value.Distinct.plain nothing).single "timeout").single "server"
  obtain ⟨wins, merges, -⟩ := Entries.overlay_laws (baseDistinct.single "server") topDistinct
  obtain ⟨-, kept⟩ := merges ["server"] _ _ rfl rfl
  exact ⟨baseDistinct.single _, topDistinct, wins _ _ rfl (.inl nothing), kept "url" [] rfl⟩

end MediaSearch
