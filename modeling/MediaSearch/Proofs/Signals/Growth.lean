import MediaSearch.Proofs.Phrase.Surroundings
import MediaSearch.Proofs.Signals.Amounts
import MediaSearch.Proofs.Signals.Years

/-!
# More words

Words before and after a text never take back what the text asks for. A flag stays set, a bound that
is set stays set, if perhaps to something else, and a choice from an ordered table gives way to
earlier ones only.
-/

set_option autoImplicit false

namespace MediaSearch

open Phrase Text

namespace Signal

/-!
## Phrases that last
-/

theorem lasting_yearBehind {word : String} (steady : Steady word.toList) :
    Lasting (yearBehind? word) := by
  apply lasting_of_recognises (recognises_yearBehind word)
  rintro _ year ⟨blanks, digits, rest, rfl, apart, blank, numeral⟩
  refine ⟨word.toList ++ (blanks ++ digits), rest, (List.append_assoc ..).symm, ?_, ?_⟩
  · rw [steady_append, steady_append]
    exact ⟨steady, steady_blanks blank, steady_digits numeral.all⟩
  · intro other
    exact ⟨blanks, digits, other, List.append_assoc .., apart, blank, numeral⟩

theorem lasting_minutes {adjective preposition : String} (apart : Apart [adjective, preposition])
    (other : adjective ≠ preposition) (steadyAdjective : Steady adjective.toList)
    (steadyPreposition : Steady preposition.toList) :
    Lasting (minutesHere? adjective preposition) := by
  have units : ∀ unit ∈ ["min", "hour"], Steady unit.toList := by
    decide
  apply lasting_of_recognises (recognises_minutes apart other)
  intro text digits reads
  cases reads with
  | bare => exact ⟨adjective.toList, _, rfl, steadyAdjective, fun _ => .bare⟩
  | @counted _ blanks _ gap rest unit spaces blank someDigits numeric gapBlank known =>
      refine ⟨preposition.toList ++ (blanks ++ (digits ++ (gap ++ unit.toList))), rest,
        by simp only [List.append_assoc], ?_, ?_⟩
      · simp only [steady_append]
        exact ⟨steadyPreposition, steady_blanks blank, steady_digits numeric,
          steady_blanks gapBlank, units unit known⟩
      · intro other
        simp only [List.append_assoc]
        exact .counted spaces blank someDigits numeric gapBlank known

theorem lasting_recency : Lasting recencyHere? := by
  have newWords : ∀ word ∈ ["added", "new"], Steady word.toList := by
    decide
  have smallWords : (∀ word ∈ ["", "in"], Steady word.toList) ∧
      (∀ word ∈ ["", "the"], Steady word.toList) ∧
      ∀ word ∈ ["", "last", "past"], Steady word.toList := by
    decide
  have units : ∀ unit ∈ recencyUnits, Steady unit.1.toList := by
    decide
  apply lasting_of_recognises recognises_recency
  intro text recency reads
  cases reads with
  | @spoken _ afterNew afterIn afterThe afterLast digits afterDigits rest newWord inWord theWord
      lastWord unit days isNew isIn isThe isLast known blankNew blankIn blankThe blankLast numeric
      blankDigits =>
      refine ⟨newWord.toList ++ (afterNew ++ (inWord.toList ++ (afterIn ++ (theWord.toList ++
        (afterThe ++ (lastWord.toList ++ (afterLast ++ (digits ++ (afterDigits ++
          unit.toList))))))))), rest, by simp only [List.append_assoc], ?_, ?_⟩
      · simp only [steady_append]
        exact ⟨newWords _ isNew, steady_blanks blankNew, smallWords.1 _ isIn,
          steady_blanks blankIn, smallWords.2.1 _ isThe, steady_blanks blankThe,
          smallWords.2.2 _ isLast, steady_blanks blankLast, steady_digits numeric,
          steady_blanks blankDigits, units _ known⟩
      · intro other
        simp only [List.append_assoc]
        exact .spoken isNew isIn isThe isLast known blankNew blankIn blankThe blankLast numeric
          blankDigits

/-- A word for ratings, a word for a bound and a digit, with blanks between them or without. -/
inductive BeginsRating (bounds : List String) : List Char → Prop where
  | intro {word bound : String} {blanks gap rest : List Char} {digit : Char} :
      word ∈ ["rated", "rate", "rating"] → blanks.all isBlank = true → bound ∈ bounds →
      gap.all isBlank = true → isDigit digit = true →
      BeginsRating bounds
        (word.toList ++ (blanks ++ (bound.toList ++ (gap ++ digit :: rest))))

theorem isSome_decimalHere?_iff {text : List Char} :
    (decimalHere? text).isSome = true ↔ ∃ digit rest, text = digit :: rest ∧ isDigit digit = true := by
  cases text with
  | nil => simp [decimalHere?, someDigits?, Numeral.spanDigits]
  | cons character rest =>
      cases digit : isDigit character with
      | true => simp [decimalHere?, someDigits?, Numeral.spanDigits, digit]
      | false => simp [decimalHere?, someDigits?, Numeral.spanDigits, digit]

theorem afterWord?_rating {word : String} (listed : word ∈ ["rated", "rate", "rating"])
    {rest : List Char} (ends : rest.head?.any (· == 'd') = false) :
    afterWord? ["rated", "rate", "rating"] (word.toList ++ rest) = some rest := by
  simp only [List.mem_cons, List.not_mem_nil, or_false] at listed
  rcases listed with rfl | rfl | rfl
  · rfl
  · cases rest with
    | nil => rfl
    | cons character rest =>
        have other : 'd' ≠ character := by
          rintro rfl
          cases ends
        simp [afterWord?, afterAny?, after?, other]
  · rfl

/-- Words for bounds, each of which is known by its beginning. None turns `rate` into `rated`. -/
structure BoundWords (bounds : List String) : Prop where
  apart : Apart bounds
  solid : ∀ bound ∈ bounds, bound.toList.head?.any (!isBlank ·) = true
  other : ∀ bound ∈ bounds, bound.toList.head?.any (!· == 'd') = true
  steady : ∀ bound ∈ bounds, Steady bound.toList

section Rating

variable {bounds : List String}

theorem isSome_ratingHere?_iff (words : BoundWords bounds) {text : List Char} :
    (ratingHere? bounds text).isSome = true ↔ BeginsRating bounds text := by
  constructor
  · intro found
    obtain ⟨value, read⟩ := Option.isSome_iff_exists.mp found
    obtain ⟨behind, taken, readBound⟩ := Option.bind_eq_some_iff.mp read
    obtain ⟨rest, bounded, readNumber⟩ := Option.bind_eq_some_iff.mp readBound
    obtain ⟨digit, others, number, numeric⟩ :=
      isSome_decimalHere?_iff.mp (Option.isSome_iff_exists.mpr ⟨value, readNumber⟩)
    obtain ⟨word, listed, rfl⟩ := exists_of_afterWord? taken
    obtain ⟨blanks, blank, split⟩ := exists_skipped behind
    obtain ⟨bound, known, whole⟩ := exists_of_afterWord? bounded
    obtain ⟨gap, gapBlank, last⟩ := exists_skipped rest
    rw [split, whole, last, number]
    exact .intro listed blank known gapBlank numeric
  · have noBlank : ∀ character, isBlank character = true → (character == 'd') = false := by
      intro character blank
      apply beq_false_of_ne
      rintro rfl
      exact absurd blank (by decide)
    intro begins
    cases begins with
    | @intro word bound blanks gap rest digit listed blank known gapBlank numeric =>
        have solid := words.solid bound known
        have ends := head?_any_gap noBlank blank (words.other bound known) (gap ++ digit :: rest)
        have number : skipBlanks (gap ++ digit :: rest) = digit :: rest :=
          @skipBlanks_gap gap [digit] gapBlank (by simp [not_isBlank_of_isDigit numeric]) rest
        obtain ⟨value, read⟩ := Option.isSome_iff_exists.mp
          (isSome_decimalHere?_iff.mpr ⟨digit, rest, rfl, numeric⟩)
        refine Option.isSome_iff_exists.mpr ⟨value, ?_⟩
        refine Option.bind_eq_some_iff.mpr ⟨_, afterWord?_rating listed ends, ?_⟩
        rw [skipBlanks_gap blank solid, afterWord?_of_mem words.apart known,
          Option.bind_eq_bind, Option.bind_some, number]
        exact read

theorem lasting_rating (words : BoundWords bounds) : Lasting (ratingHere? bounds) := by
  have ratings : ∀ word ∈ ["rated", "rate", "rating"], Steady word.toList := by
    decide
  intro text found
  cases (isSome_ratingHere?_iff words).mp found with
  | @intro word bound blanks gap rest digit listed blank known gapBlank numeric =>
      refine ⟨word.toList ++ (blanks ++ (bound.toList ++ (gap ++ [digit]))), rest,
        by simp only [List.append_assoc, List.singleton_append], ?_, ?_⟩
      · simp only [steady_append]
        exact ⟨ratings word listed, steady_blanks blank, words.steady bound known,
          steady_blanks gapBlank, steady_digits (by simpa using numeric)⟩
      · intro more
        simp only [List.append_assoc, List.singleton_append]
        exact (isSome_ratingHere?_iff words).mpr (.intro listed blank known gapBlank numeric)

end Rating

/-!
## Ordered tables
-/

section Table

variable {α : Type} {table : List (List String × α)} {place : α → Nat} {last : Nat}

/-- The rows of a table stand in the order of their places, and before a last one. -/
def Ordered (table : List (List String × α)) (place : α → Nat) (last : Nat) : Prop :=
  (table.map (fun row => place row.2) ++ [last]).Pairwise (· ≤ ·)

instance (table : List (List String × α)) (place : α → Nat) (last : Nat) :
    Decidable (Ordered table place last) :=
  inferInstanceAs (Decidable (List.Pairwise _ _))

theorem firstMentioned_cons (words : List String) (value : α)
    (table : List (List String × α)) (text : List Char) :
    firstMentioned ((words, value) :: table) text =
      if words.any (mentions text) then some value else firstMentioned table text := by
  rw [firstMentioned, List.find?_cons]
  split
  · rename_i mentioned
    exact (if_pos mentioned).symm
  · rename_i mentioned
    exact (if_neg (ne_true_of_eq_false mentioned)).symm

theorem Ordered.place_le {words : List String} {value : α}
    (ordered : Ordered ((words, value) :: table) place last) (text : List Char) :
    place value ≤ (firstMentioned table text).elim last place := by
  have later := (List.pairwise_cons.mp ordered).1
  cases found : firstMentioned table text with
  | none => exact later last (List.mem_append_right _ List.mem_cons_self)
  | some other =>
      apply later
      apply List.mem_append_left
      obtain ⟨row, member, rfl⟩ := List.mem_map.mp (firstMentioned_mem found)
      exact List.mem_map.mpr ⟨row, member, rfl⟩

theorem Ordered.elim_firstMentioned_le (ordered : Ordered table place last)
    (steady : ∀ row ∈ table, ∀ word ∈ row.1, Steady word.toList) {text longer : List Char}
    (keeps : Keeps text longer) :
    (firstMentioned table longer).elim last place ≤
      (firstMentioned table text).elim last place := by
  induction table with
  | nil => exact Nat.le_refl last
  | cons row rest ih =>
      obtain ⟨words, value⟩ := row
      obtain ⟨here, later⟩ := List.forall_mem_cons.mp steady
      rw [firstMentioned_cons, firstMentioned_cons]
      by_cases mentioned : words.any (mentions text) = true
      · apply Nat.le_of_eq
        rw [if_pos mentioned, if_pos (keeps.any_mentions_eq_true here mentioned)]
      · rw [if_neg mentioned]
        split
        · exact ordered.place_le text
        · exact ih (List.pairwise_cons.mp ordered).2 later

end Table

/-!
## Signals of a longer text
-/

section Keeps

variable {text longer : List Char}

theorem isSome_cast (found : Option Nat) : (found : Option Int).isSome = found.isSome := by
  cases found <;> rfl

theorem watching_keeps (keeps : Keeps text longer) :
    ((watching text).unwatched = true → (watching longer).unwatched = true) ∧
    ((watching text).inProgress = true → (watching longer).inProgress = true) ∧
    ((watching text).watched = true →
      (watching longer).watched = true ∨ (watching longer).unwatched = true) := by
  refine ⟨keeps.any_mentions_eq_true (by decide), keeps.any_mentions_eq_true (by decide), ?_⟩
  intro watched
  simp only [watching, Bool.and_eq_true, Bool.not_eq_true'] at watched ⊢
  have mentioned := keeps.mentions_eq_true (by decide) watched.2
  cases unwatched : asksUnwatched longer with
  | true => exact .inr rfl
  | false => exact .inl ⟨rfl, mentioned⟩

theorem ratings_keep (keeps : Keeps text longer) :
    ((minRating? text).isSome = true → (minRating? longer).isSome = true) ∧
    ((maxRating? text).isSome = true → (maxRating? longer).isSome = true) := by
  have lower : BoundWords ["above", "over", ">", "greater than"] := by
    constructor <;> decide
  have upper : BoundWords ["below", "under", "<", "less than"] := by
    constructor <;> decide
  exact ⟨(lasting_rating lower).isSome_first keeps, (lasting_rating upper).isSome_first keeps⟩

theorem years_keep (keeps : Keeps text longer) :
    ((years text).minYear.isSome = true → (years longer).minYear.isSome = true) ∧
    ((years text).maxYear.isSome = true → (years longer).maxYear.isSome = true) := by
  have behind {word : String} (steady : Steady word.toList) :=
    (lasting_yearBehind steady).isSome_first keeps
  have since := @behind "from" (by decide)
  have upper := @behind "before" (by decide)
  have lower := @behind "after" (by decide)
  simp only [years, Years.minYear, Years.maxYear, Option.isSome_or, Option.isSome_map, isSome_cast,
    Bool.or_eq_true]
  exact ⟨Or.imp lower since, upper⟩

theorem isSome_of_lasting {α : Type} {recognise : List Char → Option α}
    {next : α → Except Integer.TooManyDigits Nat} (lasting : Lasting recognise)
    (keeps : Keeps text longer) {found more : Option Nat}
    (read : (first recognise text).mapM next = .ok found)
    (readMore : (first recognise longer).mapM next = .ok more) (set : found.isSome = true) :
    more.isSome = true := by
  rw [Result.isSome_of_mapM_eq_ok read] at set
  rw [Result.isSome_of_mapM_eq_ok readMore]
  exact lasting.isSome_first keeps set

theorem minutes_keep (keeps : Keeps text longer) {found more : Option Nat} :
    (maxMinutes? text = .ok found → maxMinutes? longer = .ok more →
      found.isSome = true → more.isSome = true) ∧
    (minMinutes? text = .ok found → minMinutes? longer = .ok more →
      found.isSome = true → more.isSome = true) := by
  have short : Lasting (minutesHere? "short" "under") :=
    lasting_minutes (by decide) (by decide) (by decide) (by decide)
  have long : Lasting (minutesHere? "long" "over") :=
    lasting_minutes (by decide) (by decide) (by decide) (by decide)
  exact ⟨isSome_of_lasting short keeps, isSome_of_lasting long keeps⟩

theorem isSome_recency?_iff {text : List Char} :
    (recency? text).isSome = true ↔ (first recencyHere? text).isSome = true ∨
      ["recently added", "new"].any (mentions text) = true := by
  simp [recency?, Option.isSome_or, apply_ite Option.isSome]

theorem recency_keeps (keeps : Keeps text longer) {found more : Option Nat}
    (read : addedWithinDays? text = .ok found) (readMore : addedWithinDays? longer = .ok more)
    (set : found.isSome = true) : more.isSome = true := by
  rw [Result.isSome_of_mapM_eq_ok read, isSome_recency?_iff] at set
  rw [Result.isSome_of_mapM_eq_ok readMore, isSome_recency?_iff]
  exact set.imp (lasting_recency.isSome_first keeps) (keeps.any_mentions_eq_true (by decide))

end Keeps

end Signal

/-- The place of a choice in an order, where none comes last. -/
def Filter.placeIn (order : List String) (choice : Option String) : Nat :=
  choice.elim order.length order.idxOf

def Filter.boundFields : List Filter.Field :=
  [.minRating, .maxRating, .minYear, .maxYear, .minMinutes, .maxMinutes, .addedWithinDays]

/-- Nothing that one filter asks for is taken back by another. -/
structure Filter.Upholds (more said : Filter) : Prop where
  unwatched : said.unwatched.isSome = true → more.unwatched = some true
  inProgress : said.inProgress.isSome = true → more.inProgress = some true
  watched : said.watched.isSome = true → more.watched = some true ∨ more.unwatched = some true
  bounds : ∀ field ∈ boundFields,
    (said.get field).isSome = true → (more.get field).isSome = true
  type : placeIn ["movie", "show", "episode"] more.type ≤
    placeIn ["movie", "show", "episode"] said.type
  genre : placeIn (Signal.genreTable.map (·.2)) more.genre ≤
    placeIn (Signal.genreTable.map (·.2)) said.genre
  resolution : placeIn ["4k", "hd"] more.resolution ≤ placeIn ["4k", "hd"] said.resolution
  sort : placeIn ["rating", "addedAt", "year", "random"] more.sort ≤
    placeIn ["rating", "addedAt", "year", "random"] said.sort

theorem Signals.isSome_flag {present : Bool} : (flag present).isSome = true ↔ present = true := by
  cases present <;> simp [flag]

theorem Signals.flag_eq_some_iff {present : Bool} : flag present = some true ↔ present = true := by
  cases present <;> simp [flag]

theorem Signals.upholds {text longer : List Char} (keeps : Keeps text longer)
    {said more : Signals} (read : ofLowered text = .ok said) (readMore : ofLowered longer = .ok more) :
    more.toFilter.Upholds said.toFilter := by
  obtain ⟨_, _, _, mostRead, leastRead, daysRead, rfl⟩ := ofLowered_eq_ok_iff.mp read
  obtain ⟨_, _, _, moreMostRead, moreLeastRead, moreDaysRead, rfl⟩ :=
    ofLowered_eq_ok_iff.mp readMore
  obtain ⟨unwatched, inProgress, watched⟩ := Signal.watching_keeps keeps
  constructor
  case unwatched =>
    intro set
    exact flag_eq_some_iff.mpr (unwatched (isSome_flag.mp set))
  case inProgress =>
    intro set
    exact flag_eq_some_iff.mpr (inProgress (isSome_flag.mp set))
  case watched =>
    intro set
    exact (watched (isSome_flag.mp set)).imp flag_eq_some_iff.mpr flag_eq_some_iff.mpr
  case bounds =>
    obtain ⟨minRating, maxRating⟩ := Signal.ratings_keep keeps
    obtain ⟨minYear, maxYear⟩ := Signal.years_keep keeps
    have minMinutes := (Signal.minutes_keep keeps).2 leastRead moreLeastRead
    have maxMinutes := (Signal.minutes_keep keeps).1 mostRead moreMostRead
    have recency := Signal.recency_keeps keeps daysRead moreDaysRead
    simp only [Filter.boundFields, List.forall_mem_cons, toFilter, Filter.get, Option.isSome_map,
      Signal.isSome_cast]
    exact ⟨minRating, maxRating, minYear, maxYear, minMinutes, maxMinutes, recency,
      List.forall_mem_nil _⟩
  case type => exact Signal.Ordered.elim_firstMentioned_le (by decide) (by decide) keeps
  case genre => exact Signal.Ordered.elim_firstMentioned_le (by decide +kernel) (by decide) keeps
  case resolution => exact Signal.Ordered.elim_firstMentioned_le (by decide) (by decide) keeps
  case sort =>
    simp only [toFilter, Filter.placeIn, Option.elim_map]
    exact Signal.Ordered.elim_firstMentioned_le (by decide) (by decide) keeps

/-- Whatever stands before a text and after it, what the text asks for is upheld. -/
theorem Filter.ofText_upholds (before text after : String) {said more : Filter}
    (read : ofText text = .ok said) (readMore : ofText (before ++ text ++ after) = .ok more) :
    more.Upholds said := by
  obtain ⟨signals, signalsRead, rfl⟩ := ofText_eq_ok_iff.mp read
  obtain ⟨moreSignals, moreSignalsRead, rfl⟩ := ofText_eq_ok_iff.mp readMore
  have keeps := keeps_lower before.toList text.toList after.toList
  rw [← String.toList_append, ← String.toList_append] at keeps
  exact Signals.upholds keeps signalsRead moreSignalsRead

def watchedSeries : Filter where
  type := some "show"
  year := some 1990
  minYear := some 1991
  watched := some true
  maxMinutes := some (.int 90)
  resolution := some "hd"

def unwatchedFilm : Filter where
  type := some "movie"
  year := some 1990
  minYear := some 1991
  unwatched := some true
  maxMinutes := some (.int 90)
  resolution := some "4k"

/-- The name at the end of the text is the beginning of a longer one in more words, where its last
letter has another lower case. -/
theorem ofText_upholds_watchedSeries :
    let text := "Watched HD series after 1990, under 90 min: ΟΔΟΣ"
    Filter.ofText text = .ok watchedSeries ∧
      Filter.ofText ("UHD film? " ++ text ++ "ΙΑ, not watched") = .ok unwatchedFilm ∧
      ¬ lower text.toList <:+: lower ("UHD film? " ++ text ++ "ΙΑ, not watched").toList ∧
      unwatchedFilm.Upholds watchedSeries := by
  intro text
  have read : Filter.ofText text = .ok watchedSeries := by
    decide +kernel
  have readMore :
      Filter.ofText ("UHD film? " ++ text ++ "ΙΑ, not watched") = .ok unwatchedFilm := by
    decide +kernel
  have changed :
      ¬ lower text.toList <:+: lower ("UHD film? " ++ text ++ "ΙΑ, not watched").toList := by
    decide +kernel
  exact ⟨read, readMore, changed, Filter.ofText_upholds _ _ _ read readMore⟩

end MediaSearch
