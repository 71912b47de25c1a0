import MediaSearch.Proofs.Result
import MediaSearch.Query

/-!
# Slots of a query

A query has one slot for each parameter, in a fixed order and each under a name of its own. The
parameters are the slots that are filled. So no name stands twice, and the parameters tell what is
in every slot.
-/

set_option autoImplicit false

namespace MediaSearch.Query

abbrev Slot := String × Option Scalar

/-- The parameters of the slots that are filled. -/
def filled (slots : List Slot) : List NamedScalar :=
  slots.flatMap fun slot => given slot.1 slot.2

@[simp] theorem filled_nil : filled [] = [] := rfl

@[simp] theorem filled_cons_none (name : String) (slots : List Slot) :
    filled ((name, none) :: slots) = filled slots := rfl

@[simp] theorem filled_cons_some (name : String) (value : Scalar) (slots : List Slot) :
    filled ((name, some value) :: slots) = (name, value) :: filled slots := rfl

theorem map_fst_filled_sublist (slots : List Slot) :
    ((filled slots).map (·.1)).Sublist (slots.map (·.1)) := by
  induction slots with
  | nil => exact .slnil
  | cons slot slots ih =>
      obtain ⟨name, value⟩ := slot
      cases value with
      | none => exact .cons _ ih
      | some value => exact .cons_cons _ ih

theorem mem_filled {slots : List Slot} {name : String} {value : Scalar} :
    (name, value) ∈ filled slots ↔ (name, some value) ∈ slots := by
  induction slots with
  | nil => simp
  | cons slot slots ih =>
      obtain ⟨other, content⟩ := slot
      cases content with
      | none => simp [ih]
      | some content => simp [ih]

theorem filter_filled (keeps : String → Bool) (slots : List Slot) :
    (filled slots).filter (fun parameter => keeps parameter.1) =
      filled (slots.filter fun slot => keeps slot.1) := by
  induction slots with
  | nil => rfl
  | cons slot slots ih =>
      obtain ⟨name, value⟩ := slot
      cases value with
      | none => cases kept : keeps name <;> simp [kept, ih]
      | some value => cases kept : keeps name <;> simp [kept, ih]

/-- Under names that differ from one another, the parameters tell what is in every slot. -/
theorem eq_of_filled_eq {left right : List Slot} (names : left.map (·.1) = right.map (·.1))
    (distinct : (left.map (·.1)).Nodup) (same : filled left = filled right) : left = right := by
  induction left generalizing right with
  | nil => exact (List.map_eq_nil_iff.mp names.symm).symm
  | cons slot left ih =>
      obtain ⟨name, value⟩ := slot
      cases right with
      | nil => simp at names
      | cons other right =>
          obtain ⟨otherName, otherValue⟩ := other
          simp only [List.map_cons, List.cons.injEq] at names
          obtain ⟨rfl, names⟩ := names
          simp only [List.map_cons, List.nodup_cons] at distinct
          obtain ⟨fresh, distinct⟩ := distinct
          -- A slot that is filled on one side only would show its name among the later slots.
          have absent : ∀ (value : Scalar) (slots : List Slot), slots.map (·.1) = left.map (·.1) →
              (name, value) ∉ filled slots := by
            intro value slots sameNames present
            apply fresh
            rw [← sameNames]
            exact (map_fst_filled_sublist slots).subset (List.mem_map.mpr ⟨_, present, rfl⟩)
          cases value with
          | none =>
              cases otherValue with
              | none => rw [ih names distinct same]
              | some otherValue =>
                  refine absurd ?_ (absent otherValue left rfl)
                  rw [filled_cons_none, filled_cons_some] at same
                  rw [same]
                  exact .head _
          | some value =>
              cases otherValue with
              | none =>
                  refine absurd ?_ (absent value right names.symm)
                  rw [filled_cons_none, filled_cons_some] at same
                  rw [← same]
                  exact .head _
              | some otherValue =>
                  simp only [filled_cons_some, List.cons.injEq, Prod.mk.injEq, true_and] at same
                  rw [same.1, ih names distinct same.2]

/-!
## The slots of a filter
-/

/-- The names of parameters in the order in which queries carry them. -/
def parameterNames : List String :=
  ["type", "title", "year>>", "year<<", "year", "genre", "contentRating", "director", "actor",
    "studio", "rating>>", "rating<<", "unwatched", "viewCount>>", "inProgress", "duration>>",
    "duration<<", "addedAt>>", "videoResolution", "sort"]

theorem nodup_parameterNames : parameterNames.Nodup := by decide

def YearRange.first? : YearRange → Option Int
  | .between first _ => some first
  | _ => none

def YearRange.last? : YearRange → Option Int
  | .between _ last => some last
  | _ => none

def YearRange.only? : YearRange → Option Int
  | .exactly year => some year
  | _ => none

def flagValue (flag : Option Bool) (value : Int) : Option Scalar :=
  if flag = some true then some (.int value) else none

def durationValue (minutes : Option Number) : Option Scalar :=
  minutes.map fun minutes => .number (minutes.scale millisecondsPerMinute)

/-- The slots of a filter, told the present year and since when items are to have been added. -/
def slots (filter : Filter) (thisYear : Int) (since : Option Int) : List Slot :=
  let years := YearRange.ofFilter filter thisYear
  [("type", some (.int (MediaKind.ofType filter.type).code)),
    ("title", filter.title.map .text),
    ("year>>", years.first?.map .int), ("year<<", years.last?.map .int),
    ("year", years.only?.map .int),
    ("genre", filter.genre.map .text), ("contentRating", filter.contentRating.map .text),
    ("director", filter.director.map .text), ("actor", filter.actor.map .text),
    ("studio", filter.studio.map .text),
    ("rating>>", filter.minRating.map .number), ("rating<<", filter.maxRating.map .number),
    ("unwatched", flagValue filter.unwatched 1), ("viewCount>>", flagValue filter.watched 0),
    ("inProgress", flagValue filter.inProgress 1),
    ("duration>>", durationValue filter.minMinutes),
    ("duration<<", durationValue filter.maxMinutes),
    ("addedAt>>", since.map .int),
    ("videoResolution", (filter.resolution.bind resolutionParameter?).map .text),
    ("sort", some (.text (sortText filter.sort filter.sortOrder)))]

theorem map_fst_slots (filter : Filter) (thisYear : Int) (since : Option Int) :
    (slots filter thisYear since).map (·.1) = parameterNames := rfl

theorem flagged_eq_given (name : String) (flag : Option Bool) (value : Int) :
    flagged name flag value = given name (flagValue flag value) := by
  unfold flagged flagValue
  split <;> rfl

theorem YearRange.parameters_eq_filled (years : YearRange) :
    years.parameters = filled [("year>>", years.first?.map .int),
      ("year<<", years.last?.map .int), ("year", years.only?.map .int)] := by
  cases years <;> rfl

theorem parametersOf_eq_filled (filter : Filter) (thisYear : Int) (since : Option Int) :
    parametersOf filter thisYear since = filled (slots filter thisYear since) := by
  delta parametersOf slots
  simp only [flagged_eq_given, YearRange.parameters_eq_filled, filled, durationValue,
    List.flatMap_cons, List.flatMap_nil, List.append_assoc, List.append_nil]
  rfl

theorem map_fst_parametersOf_sublist (filter : Filter) (thisYear : Int) (since : Option Int) :
    ((parametersOf filter thisYear since).map (·.1)).Sublist parameterNames := by
  rw [parametersOf_eq_filled, ← map_fst_slots filter thisYear since]
  exact map_fst_filled_sublist _

theorem nodup_map_fst_parametersOf (filter : Filter) (thisYear : Int) (since : Option Int) :
    ((parametersOf filter thisYear since).map (·.1)).Nodup :=
  (map_fst_parametersOf_sublist filter thisYear since).nodup nodup_parameterNames

/-- Equal parameters come from equal slots, also of different filters at different times. -/
theorem parametersOf_eq_iff {left right : Filter} {leftYear rightYear : Int}
    {leftSince rightSince : Option Int} :
    parametersOf left leftYear leftSince = parametersOf right rightYear rightSince ↔
      slots left leftYear leftSince = slots right rightYear rightSince := by
  rw [parametersOf_eq_filled, parametersOf_eq_filled]
  constructor
  · intro same
    apply eq_of_filled_eq _ _ same
    · rw [map_fst_slots, map_fst_slots]
    · rw [map_fst_slots]
      exact nodup_parameterNames
  · exact congrArg filled

/-!
## Compiling
-/

/-- Since when items are to have been added, if the filter says so. -/
def since? (filter : Filter) (now : Moment) : Except Binary64.IntegerError (Option Int) :=
  filter.addedWithinDays.mapM fun days => addedSince days now

theorem since?_of_none {filter : Filter} (unset : filter.addedWithinDays = none) (now : Moment) :
    since? filter now = .ok none := by
  rw [since?, unset]
  rfl

theorem exists_addedSince_of_since? {filter : Filter} {days : Number} {now : Moment}
    {since : Option Int} (set : filter.addedWithinDays = some days)
    (read : since? filter now = .ok since) :
    ∃ seconds, addedSince days now = .ok seconds ∧ since = some seconds := by
  rw [since?, set] at read
  change (addedSince days now).map some = .ok since at read
  cases added : addedSince days now with
  | error error =>
      rw [added] at read
      cases read
  | ok seconds =>
      rw [added] at read
      exact ⟨seconds, rfl, (Except.ok.inj read).symm⟩

/-- A filter compiles exactly if a section is found and the time since which items were added is a
number. The query is then made of both and of the filter itself. -/
theorem ofFilter_eq_ok_iff {filter : Filter} {sections : List Section} {now : Moment}
    {query : Query} :
    ofFilter filter sections now = .ok query ↔
      ∃ sectionId since, Section.choose? filter sections = some sectionId ∧
        since? filter now = .ok since ∧
        query = ⟨sectionId, parametersOf filter now.date.year since,
          sortText filter.sort filter.sortOrder,
          ⟨0, filter.limit.getD Vocabulary.defaultLimit⟩⟩ := by
  unfold ofFilter since?
  cases Section.choose? filter sections with
  | none => simp [Result.bind_eq_ok_iff]
  | some sectionId =>
      simp [Result.bind_eq_ok_iff, Result.mapError_eq_ok_iff, pure, Except.pure,
        eq_comm (b := query)]

end MediaSearch.Query
