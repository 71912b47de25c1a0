import MediaSearch.Proofs.Signals.Sentence

/-!
# Reading sentences

What a sentence says is read from it, and nothing else. What is asked for stands in words that
nothing else in the sentence looks like, and a search for a bound passes over whatever stands
before.
-/

set_option autoImplicit false

namespace MediaSearch

open Phrase Text

theorem Signal.firstMentioned_congr {α : Type} {table : List (List String × α)}
    {text other : List Char}
    (same : ∀ row ∈ table, ∀ word ∈ row.1, mentions text word = mentions other word) :
    firstMentioned table text = firstMentioned table other := by
  refine congrArg (Option.map _) (List.find?_congr fun row member => ?_)
  refine Bool.eq_iff_iff.mpr (List.any_eq_true.trans (Iff.trans ?_ List.any_eq_true.symm))
  exact exists_congr fun word => and_congr_right fun listed => by rw [same row member word listed]

/-- Whether something stands anywhere in a text by itself. -/
def Signal.standsAlone (part text : List Char) : Bool :=
  (firstAfter (fun before rest => if tokenHere [part] before rest then some () else none)
    none text).isSome

theorem Signal.standsAlone_iff {part text : List Char} : standsAlone part text = true ↔
    ∃ before after, text = before ++ (part ++ after) ∧ LeavesAlone before after := by
  rw [standsAlone, isSome_firstAfter_iff (recognises_token _)]
  constructor
  · rintro ⟨before, _, _, rfl, _, listed, after, rfl, alone⟩
    obtain rfl := List.mem_singleton.mp listed
    exact ⟨before, after, rfl, alone⟩
  · rintro ⟨before, after, rfl, alone⟩
    exact ⟨before, _, (), rfl, part, List.mem_singleton_self part, after, rfl, alone⟩

namespace Sentence

/-!
## What is asked for
-/

/-- Keywords that are in no sentence. -/
def unusedKeywords : List String :=
  ["not watched", "haven't watched", "in progress", "continue", "started", "before", "after",
    "short", "under", "long", "over"] ++
  (Signal.resolutionTable.flatMap (·.1) ++ Signal.orderTable.flatMap (·.1))

theorem unspoken_of_unused : ∀ keyword ∈ unusedKeywords, Unspoken vocabulary keyword := by
  decide

/-- No other word of a sentence looks like one for a type, a watch state or a genre. -/
theorem keywords_apart :
    (∀ row ∈ Signal.typeTable, ∀ word ∈ row.1,
      Unsaid ((watchVocabulary ++ genres) ++ boundVocabulary true true true) word.toList) ∧
    (∀ word ∈ ["unwatched", "watched"],
      Unsaid (genres ++ (kindVocabulary ++ boundVocabulary true true true)) word.toList) ∧
    ∀ name ∈ Signal.genres, name = "science fiction" ∨
      Unsaid (watchVocabulary ++ (kindVocabulary ++ boundVocabulary true true true))
        name.toList := by
  decide

/-- No genre is taken for another one. -/
theorem genres_apart :
    (∀ genre ∈ none :: genres.map some,
      Signal.genres.find? (fun name => (genreWords genre).any (mentions · name)) = genre) ∧
    (∀ genre ∈ genres, mentions genre.toList "science fiction" =
      decide (some genre = some "science fiction")) ∧
    Unspoken ((watchVocabulary ++ (genres.filter (· ≠ "science fiction") ++ kindVocabulary)) ++
      boundVocabulary true true true) "science fiction" := by
  decide

section Opening

variable (sentence : Sentence) {keyword : String}

theorem mentions_watch
    (unsaid : Unsaid (genres ++ (kindVocabulary ++ boundVocabulary true true true))
      keyword.toList) :
    mentions sentence.characters keyword =
      (watchWords sentence.watch).any (mentions · keyword) := by
  have split : sentence.opening ++ sentence.bounds = [] ++ (watchWords sentence.watch ++
      (genreWords sentence.genre ++ ([sentence.kind.word.toList] ++ sentence.bounds))) := by
    simp [opening]
  have drawn := (drawnFrom_genre sentence.genreKnown).append
    ((drawnFrom_kind sentence.kind).append sentence.drawnFrom_allBounds)
  rw [← List.nil_append (genreWords sentence.genre ++ _)] at drawn
  exact mentions_joined_of_unsaid unsaid split drawn

theorem mentions_genre
    (unsaid : Unsaid (watchVocabulary ++ (kindVocabulary ++ boundVocabulary true true true))
      keyword.toList) :
    mentions sentence.characters keyword =
      (genreWords sentence.genre).any (mentions · keyword) := by
  have split : sentence.opening ++ sentence.bounds = watchWords sentence.watch ++
      (genreWords sentence.genre ++ ([sentence.kind.word.toList] ++ sentence.bounds)) := by
    simp [opening]
  exact mentions_joined_of_unsaid unsaid split ((drawnFrom_watch _).append
    ((drawnFrom_kind _).append sentence.drawnFrom_allBounds))

theorem mentions_kind
    (unsaid : Unsaid ((watchVocabulary ++ genres) ++ boundVocabulary true true true)
      keyword.toList) :
    mentions sentence.characters keyword = mentions sentence.kind.word.toList keyword := by
  have split : sentence.opening ++ sentence.bounds =
      (watchWords sentence.watch ++ genreWords sentence.genre) ++
        ([sentence.kind.word.toList] ++ sentence.bounds) := by
    simp [opening]
  have alone := mentions_joined_of_unsaid unsaid split (((drawnFrom_watch _).append
    (drawnFrom_genre sentence.genreKnown)).append sentence.drawnFrom_allBounds)
  rwa [List.any_cons, List.any_nil, Bool.or_false] at alone

theorem type?_eq : Signal.type? sentence.characters = some sentence.kind.type := by
  have same := Signal.firstMentioned_congr fun row member word listed =>
    sentence.mentions_kind (keywords_apart.1 row member word listed)
  rw [Signal.type?, same]
  cases sentence.kind <;> rfl

theorem mentions_eq_false (unused : keyword ∈ unusedKeywords) :
    mentions sentence.characters keyword = false :=
  (unspoken_of_unused keyword unused).mentions_joined sentence.drawnFrom_vocabulary

theorem watching_eq : Signal.watching sentence.characters =
    ⟨sentence.watch = some .unwatched, sentence.watch = some .watched, false⟩ := by
  have said := keywords_apart.2.1
  simp only [List.forall_mem_cons] at said
  obtain ⟨unwatched, watched, _⟩ := said
  have unused : ∀ keyword ∈ ["not watched", "haven't watched", "in progress", "continue",
      "started"], keyword ∈ unusedKeywords := by
    decide
  have missing := fun keyword listed => sentence.mentions_eq_false (unused keyword listed)
  simp only [List.forall_mem_cons] at missing
  obtain ⟨notWatched, havenot, inProgress, goesOn, started, _⟩ := missing
  rw [Signal.watching, Signal.asksUnwatched]
  simp only [List.any_cons, List.any_nil, notWatched, havenot, inProgress, goesOn, started,
    sentence.mentions_watch unwatched, sentence.mentions_watch watched, Bool.or_false]
  cases sentence.watch with
  | none => rfl
  | some watch => cases watch <;> rfl

/-- The one genre of two words is found only if it is said: otherwise the second of them is in no
word of the sentence. -/
theorem mentions_scienceFiction :
    mentions sentence.characters "science fiction" =
      decide (sentence.genre = some "science fiction") := by
  by_cases said : sentence.genre = some "science fiction"
  · have listed : "science fiction".toList ∈ sentence.opening ++ sentence.bounds := by
      simp [opening, genreWords, said]
    rw [decide_eq_true said]
    exact occursIn_iff.mpr (infix_joined_of_mem listed)
  · have others : ∀ name ∈ sentence.genre, name ∈ genres.filter (· ≠ "science fiction") := by
      intro name found
      refine List.mem_filter.mpr ⟨sentence.genreKnown name found, decide_eq_true ?_⟩
      rintro rfl
      exact said found
    have drawn := ((drawnFrom_watch sentence.watch).append ((drawnFrom_genre others).append
      (drawnFrom_kind sentence.kind))).append sentence.drawnFrom_allBounds
    rw [decide_eq_false said]
    exact genres_apart.2.2.mentions_joined drawn

theorem mentions_genre_of_mem {name : String} (known : name ∈ Signal.genres) :
    mentions sentence.characters name = (genreWords sentence.genre).any (mentions · name) := by
  rcases keywords_apart.2.2 name known with rfl | unsaid
  · rw [mentions_scienceFiction]
    cases genre : sentence.genre with
    | none => rfl
    | some name => simp [genreWords, genres_apart.2.1 name (sentence.genreKnown name genre)]
  · exact sentence.mentions_genre unsaid

theorem genre?_eq : Signal.genre? sentence.characters =
    sentence.genre.map Signal.canonicalGenre := by
  have listed : sentence.genre ∈ none :: genres.map some := by
    have known := sentence.genreKnown
    cases genre : sentence.genre with
    | none => exact List.mem_cons_self
    | some name => exact List.mem_cons_of_mem _ (List.mem_map_of_mem (known name genre))
  rw [Signal.genre?_eq, List.find?_congr fun name => sentence.mentions_genre_of_mem,
    genres_apart.1 _ listed]

theorem firstMentioned_eq_none {α : Type} {table : List (List String × α)}
    (unused : ∀ row ∈ table, ∀ word ∈ row.1, word ∈ unusedKeywords) :
    Signal.firstMentioned table sentence.characters = none := by
  refine Option.map_eq_none_iff.mpr (List.find?_eq_none.mpr fun row member => ?_)
  rw [Bool.not_eq_true, List.any_eq_false]
  intro word listed
  rw [sentence.mentions_eq_false (unused row member word listed)]
  decide

theorem resolution?_eq : Signal.resolution? sentence.characters = none :=
  sentence.firstMentioned_eq_none fun row member _ listed =>
    List.mem_append_right _ (List.mem_append_left _ (List.mem_flatMap.mpr ⟨row, member, listed⟩))

theorem order?_eq : Signal.order? sentence.characters = none :=
  sentence.firstMentioned_eq_none fun row member _ listed =>
    List.mem_append_right _ (List.mem_append_right _ (List.mem_flatMap.mpr ⟨row, member, listed⟩))

end Opening

/-!
## Bounds
-/

/-- The words that a search for a bound waits for are in no word before it. -/
theorem bounds_unsaid_before :
    (∀ word ∈ ["from"], Unsaid openingVocabulary word.toList) ∧
    (∀ word ∈ ["rated", "rate", "rating"],
      Unsaid (openingVocabulary ++ ["from"]) word.toList) ∧
    ∀ above below : Bool, ∀ word ∈ ["added", "new"],
      Unsaid (openingVocabulary ++ (["from"] ++ ((if above then ["rated", "above"] else []) ++
        if below then ["rated", "below"] else []))) word.toList := by
  decide

/-- The words that a search for a bound needs are in no word of a sentence without it. -/
theorem bounds_unspoken_without :
    (∀ below span, ∀ bound ∈ ["above", "over", ">", "greater than"],
      Unspoken (openingVocabulary ++ boundVocabulary false below span) bound) ∧
    (∀ above span, ∀ bound ∈ ["below", "under", "<", "less than"],
      Unspoken (openingVocabulary ++ boundVocabulary above false span) bound) ∧
    ∀ above below, ∀ word ∈ ["recently added", "added", "new"],
      Unspoken (openingVocabulary ++ boundVocabulary above below false) word := by
  decide

section Bounds

variable (sentence : Sentence)

theorem years_decade : (Signal.years sentence.characters).decade = none := by
  refine Signal.leftmost_decade_iff.mp (.absent ?_)
  rintro before after value split ⟨digits, rest, rfl, numeral, _⟩
  obtain ⟨length, numeric, _⟩ := numeral
  match digits, length with
  | [first, second], _ =>
      simp only [List.all_cons, Bool.and_eq_true] at numeric
      have solid : IsSolid [second, 's'] := by
        refine ⟨List.cons_ne_nil _ _, ?_⟩
        simp only [List.mem_cons, List.not_mem_nil, or_false, not_or]
        refine ⟨?_, by decide⟩
        rintro rfl
        exact absurd numeric.2.1 (by decide)
      have place : joined (sentence.opening ++ sentence.bounds) =
          (before ++ [first]) ++ ([second, 's'] ++ rest) := by
        rw [← characters, split]
        simp
      obtain ⟨word, said, front, behind, rfl, _⟩ := solid.exists_word place
      -- The digit is in no word of the vocabulary, and the letter is in no numeral.
      rcases sentence.drawnFrom_vocabulary _ said with number | ⟨entry, known, spelled⟩
      · exact absurd (number 's' (by simp)) (by decide)
      · have letters := (letters_of_vocabulary entry known).2
        rw [← spelled] at letters
        simp [numeric.2.1] at letters

theorem awaits_yearBehind (word : String) : Awaits (Signal.yearBehind? word) [word] := by
  intro text value read
  obtain ⟨rest, taken, _⟩ := Option.bind_eq_some_iff.mp read
  obtain rfl := afterWord?_eq_some_iff.mp taken
  exact ⟨word, List.mem_cons_self, List.prefix_append _ _⟩

theorem years_since :
    (Signal.years sentence.characters).since = some sentence.year.value := by
  change first (Signal.yearBehind? "from") _ = _
  obtain ⟨rest, split⟩ : ∃ rest, sentence.bounds =
      [] ++ "from".toList :: sentence.year.characters :: rest := by
    rw [bounds, yearWords, List.cons_append, List.cons_append]
    exact ⟨_, (List.nil_append _).symm⟩
  rw [characters_eq split, List.append_nil,
    (awaits_yearBehind "from").first_joined bounds_unsaid_before.1 sentence.drawnFrom_opening]
  refine first_of_eq_some ((Signal.recognises_yearBehind "from" [] _ _).mpr ?_)
  refine ⟨[' '], sentence.year.characters, trailing rest, ?_, List.cons_ne_nil _ _, by decide,
    sentence.yearLength, sentence.year.numeric, rfl⟩
  rw [trailing_cons, List.append_assoc]
  rfl

theorem yearBehind?_eq_none {word : String} (unused : word ∈ unusedKeywords) :
    first (Signal.yearBehind? word) sentence.characters = none :=
  (awaits_yearBehind word).first_joined_eq_none
    (List.forall_mem_singleton.mpr (unspoken_of_unused word unused)) sentence.drawnFrom_vocabulary

/-!
## Durations
-/

theorem awaits_minutes (adjective preposition : String) :
    Awaits (Signal.minutesHere? adjective preposition) [adjective, preposition] := by
  intro text value read
  unfold Signal.minutesHere? at read
  split at read
  · rename_i rest taken
    obtain rfl := afterWord?_eq_some_iff.mp taken
    exact ⟨adjective, List.mem_cons_self, List.prefix_append _ _⟩
  · obtain ⟨rest, taken, _⟩ := Option.bind_eq_some_iff.mp read
    obtain rfl := afterWord?_eq_some_iff.mp taken
    exact ⟨preposition, List.mem_cons_of_mem _ List.mem_cons_self, List.prefix_append _ _⟩

theorem minutesHere?_eq_none {adjective preposition : String}
    (unused : ∀ word ∈ [adjective, preposition], word ∈ unusedKeywords) :
    first (Signal.minutesHere? adjective preposition) sentence.characters = none :=
  (awaits_minutes adjective preposition).first_joined_eq_none
    (fun word listed => unspoken_of_unused word (unused word listed)) sentence.drawnFrom_vocabulary

theorem maxMinutes?_eq : Signal.maxMinutes? sentence.characters = .ok none := by
  rw [Signal.maxMinutes?, sentence.minutesHere?_eq_none (by decide)]
  rfl

theorem minMinutes?_eq : Signal.minMinutes? sentence.characters = .ok none := by
  rw [Signal.minMinutes?, sentence.minutesHere?_eq_none (by decide)]
  rfl

/-!
## Ratings
-/

theorem ratingHere?_eq_none {bounds vocabulary : List String}
    (unspoken : ∀ bound ∈ bounds, Unspoken vocabulary bound) {words : List (List Char)}
    (drawn : DrawnFrom vocabulary words) :
    first (Signal.ratingHere? bounds) (joined words) = none :=
  first_joined_eq_none (fun _ _ => Signal.exists_bound_of_rating) unspoken drawn

theorem minRating?_eq : Signal.minRating? sentence.characters =
    sentence.above.map Rating.value := by
  have drawn := sentence.drawnFrom_words
  cases above : sentence.above with
  | none =>
      rw [above] at drawn
      exact ratingHere?_eq_none (bounds_unspoken_without.1 _ _) drawn
  | some rating =>
      have split : sentence.bounds = yearWords sentence.year ++ "rated".toList ::
          "above".toList :: rating.characters ::
            (ratingWords "below" sentence.below ++ spanWords sentence.span) := by
        rw [bounds, above]
        rfl
      rw [Signal.minRating?, characters_eq split, (Signal.awaits_rating _).first_joined
        bounds_unsaid_before.2.1 (sentence.drawnFrom_opening.append (drawnFrom_year _))]
      exact first_of_eq_some (Signal.ratingHere?_of_mem (by decide) (by decide) (by decide) rating
        (standsApart_trailing _))

theorem maxRating?_eq : Signal.maxRating? sentence.characters =
    sentence.below.map Rating.value := by
  have drawn := sentence.drawnFrom_words
  have front := sentence.drawnFrom_opening.append (drawnFrom_year sentence.year)
  cases below : sentence.below with
  | none =>
      rw [below] at drawn
      exact ratingHere?_eq_none (bounds_unspoken_without.2.1 _ _) drawn
  | some rating =>
      have found : ∀ rest : List (List Char),
          first (Signal.ratingHere? ["below", "under", "<", "less than"]) ("rated".toList ++
            ' ' :: ("below".toList ++ ' ' :: (rating.characters ++ trailing rest))) =
              some rating.value :=
        fun rest => first_of_eq_some (Signal.ratingHere?_of_mem (by decide) (by decide) (by decide)
          rating (standsApart_trailing rest))
      rw [Signal.maxRating?]
      cases above : sentence.above with
      | none =>
          have split : sentence.bounds = yearWords sentence.year ++ "rated".toList ::
              "below".toList :: rating.characters :: spanWords sentence.span := by
            rw [bounds, above, below]
            rfl
          rw [characters_eq split,
            (Signal.awaits_rating _).first_joined bounds_unsaid_before.2.1 front]
          exact found _
      | some least =>
          have split : sentence.bounds = yearWords sentence.year ++ "rated".toList ::
              "above".toList :: least.characters :: "rated".toList ::
                "below".toList :: rating.characters :: spanWords sentence.span := by
            rw [bounds, above, below]
            rfl
          rw [characters_eq split,
            (Signal.awaits_rating _).first_joined bounds_unsaid_before.2.1 front]
          refine Eq.trans ?_ (found (spanWords sentence.span))
          exact Signal.first_rating_of_not_mem (by decide) (by decide) (by decide) (by decide)
            least _

/-!
## Recency
-/

theorem awaits_recency : Awaits Signal.recencyHere? ["added", "new"] := by
  intro text value read
  obtain ⟨rest, taken, _⟩ := Option.bind_eq_some_iff.mp read
  obtain ⟨word, listed, rfl⟩ := exists_of_afterWord? taken
  exact ⟨word, listed, List.prefix_append _ _⟩

/-- A unit of recency begins the word for a period. -/
theorem Period.exists_unit (period : Period) : ∃ unit rest,
    (unit, period.length) ∈ Signal.recencyUnits ∧ period.word.toList = unit.toList ++ rest := by
  cases period with
  | days => exact ⟨"day", ['s'], by decide, rfl⟩
  | weeks => exact ⟨"week", ['s'], by decide, rfl⟩
  | months => exact ⟨"month", ['s'], by decide, rfl⟩

theorem recency?_eq : Signal.recency? sentence.characters =
    sentence.span.map fun span => ⟨span.count.characters, span.period.length⟩ := by
  cases known : sentence.span with
  | none =>
      have drawn := sentence.drawnFrom_words
      rw [known] at drawn
      have missing := bounds_unspoken_without.2.2 sentence.above.isSome sentence.below.isSome
      have nothing : first Signal.recencyHere? sentence.characters = none :=
        awaits_recency.first_joined_eq_none
          (fun word listed => missing word (List.mem_cons_of_mem _ listed)) drawn
      have unmentioned := fun word listed => (missing word listed).mentions_joined drawn
      simp only [List.forall_mem_cons] at unmentioned
      obtain ⟨notRecent, _, notNew, _⟩ := unmentioned
      rw [Signal.recency?, nothing, characters, notRecent, notNew]
      rfl
  | some span =>
      obtain ⟨unit, rest, listed, spelled⟩ := span.period.exists_unit
      have split : sentence.bounds = (yearWords sentence.year ++
          (ratingWords "above" sentence.above ++ ratingWords "below" sentence.below)) ++
            "added".toList :: "in".toList :: "the".toList :: "last".toList ::
              span.count.characters :: [unit.toList ++ rest] := by
        rw [bounds, known, ← spelled]
        simp only [spanWords, List.append_assoc]
      have front := sentence.drawnFrom_opening.append ((drawnFrom_year sentence.year).append
        ((drawnFrom_rating "above" sentence.above).append
          (drawnFrom_rating "below" sentence.below)))
      have spoken := @Signal.ReadsRecency.spoken [] [' '] [' '] [' '] [' '] span.count.characters
        [' '] rest "added" "in" "the" "last" unit _ (by decide) (by decide) (by decide) (by decide)
        listed (by decide) (by decide) (by decide) (by decide) span.count.numeric (by decide)
      have here := (Signal.recognises_recency _ _ _).mpr spoken
      have found : first Signal.recencyHere? sentence.characters =
          some ⟨span.count.characters, span.period.length⟩ := by
        rw [characters_eq split, awaits_recency.first_joined (bounds_unsaid_before.2.2 _ _) front]
        refine first_of_eq_some (Eq.trans (congrArg _ ?_) here)
        simp only [trailing, List.flatMap_cons, List.flatMap_nil, List.append_nil,
          List.cons_append, List.nil_append]
      rw [Signal.recency?, found]
      rfl

theorem addedWithinDays?_eq : Signal.addedWithinDays? sentence.characters =
    .ok (sentence.span.map Span.days) := by
  rw [Signal.addedWithinDays?, recency?_eq]
  cases sentence.span with
  | none => rfl
  | some span =>
      have counted : span.count.characters.isEmpty = false := by
        simpa using span.count.nonempty
      have read : Integer.ofDigits span.count.characters = .ok span.count.value :=
        Integer.ofDigits_eq_ok_iff.mpr ⟨span.short, rfl⟩
      have days : Signal.Recency.days ⟨span.count.characters, span.period.length⟩ =
          .ok span.days := by
        rw [Signal.Recency.days, counted, if_neg Bool.false_ne_true, read]
        rfl
      rw [Option.map_some, Option.mapM_some, days]
      rfl

/-!
## Content ratings
-/

/-- Where a label begins, up to the blank that a spelling may have. -/
def labelStart (spelling : List Char) : List Char :=
  spelling.takeWhile (· != ' ')

theorem labels_apart : ∀ label ∈ Signal.contentRatings, ∀ spelling ∈ Signal.spellings label,
    labelStart spelling ≠ [] ∧ hasLetter (labelStart spelling) = true ∧
    ∀ entry ∈ vocabulary, Signal.standsAlone (labelStart spelling) entry.toList = false := by
  decide

theorem contentRating?_eq : Signal.contentRating? sentence.characters = none := by
  refine List.find?_eq_none.mpr fun label known mentioned => ?_
  obtain ⟨before, spelling, after, split, spelled, alone⟩ :=
    (Signal.mentionsToken_iff known).mp mentioned
  obtain ⟨nonempty, letter, apart⟩ :=
    labels_apart label known spelling ((Signal.mem_spellings_iff known).mpr spelled)
  have solid : IsSolid (labelStart spelling) := by
    refine ⟨nonempty, fun blank => ?_⟩
    simpa using List.mem_takeWhile_imp blank
  -- What follows the beginning of the label is a blank, or what follows the label.
  have ends : Signal.LeavesAlone before (spelling.dropWhile (· != ' ') ++ after) := by
    cases more : spelling.dropWhile (· != ' ') with
    | nil => exact alone
    | cons character rest =>
        have stops := List.head?_dropWhile_not (· != ' ') spelling
        rw [more] at stops
        obtain rfl : character = ' ' := by simpa using stops
        exact Signal.leavesAlone_iff.mpr ⟨(Signal.leavesAlone_iff.mp alone).1, rfl⟩
  have place : joined (sentence.opening ++ sentence.bounds) =
      before ++ (labelStart spelling ++ (spelling.dropWhile (· != ' ') ++ after)) := by
    rw [← List.append_assoc (labelStart spelling), labelStart, List.takeWhile_append_dropWhile,
      ← split, characters]
  obtain ⟨word, said, front, behind, rfl, leads, follows⟩ := solid.exists_word place
  have inside : labelStart spelling <:+: front ++ (labelStart spelling ++ behind) :=
    ⟨front, behind, List.append_assoc ..⟩
  rcases sentence.drawnFrom_vocabulary _ said with numeric | ⟨entry, listed, same⟩
  · exact not_infix_of_isNumeric numeric letter inside
  · have separate := apart entry listed
    rw [← same, Signal.standsAlone_iff.mpr ⟨front, behind, rfl,
      ends.of_inner leads follows⟩] at separate
    cases separate

end Bounds

/-!
## All signals
-/

theorem lower_of_said {sentence : Sentence} {text : String}
    (said : text.toList.map Char.toLower = sentence.characters) :
    lower text.toList = sentence.characters := by
  rw [lower_of_isPlain, said]
  intro character member
  have lowered : character.toLower ∈ sentence.characters := said ▸ List.mem_map_of_mem member
  exact isPlain_of_toLower (isPlain_of_mem lowered)

theorem exists_signals (sentence : Sentence) : ∃ signals,
    Signals.ofLowered sentence.characters = .ok signals ∧ sentence.filter = signals.toFilter := by
  refine ⟨_, Signals.ofLowered_eq_ok_iff.mpr ⟨_, _, _, sentence.maxMinutes?_eq,
    sentence.minMinutes?_eq, sentence.addedWithinDays?_eq, rfl⟩, ?_⟩
  have noBefore : (Signal.years sentence.characters).before = none :=
    sentence.yearBehind?_eq_none (by decide)
  have noAfter : (Signal.years sentence.characters).after = none :=
    sentence.yearBehind?_eq_none (by decide)
  simp [filter, Signals.toFilter, Signals.flag, Signal.Years.exactYear, Signal.Years.minYear,
    Signal.Years.maxYear, Signal.Years.decadeYear, sentence.type?_eq, sentence.watching_eq,
    sentence.years_decade, sentence.years_since, noBefore, noAfter, sentence.minRating?_eq,
    sentence.maxRating?_eq, sentence.genre?_eq, sentence.resolution?_eq,
    sentence.contentRating?_eq, sentence.order?_eq]
  refine ⟨rfl, rfl, ?_⟩
  cases sentence.span <;> rfl

/-- A sentence in any mixture of upper and lower case is read as what it says, its ratings as the
numbers that their numerals are read as. -/
theorem ofText_of_said (sentence : Sentence) {text : String}
    (said : text.toList.map Char.toLower = sentence.characters) :
    Filter.ofText text = .ok sentence.filter ∧
      (∀ rating ∈ sentence.above, Binary64.ofText? rating.characters = some rating.value) ∧
      ∀ rating ∈ sentence.below, Binary64.ofText? rating.characters = some rating.value := by
  refine ⟨?_, fun rating _ => rating.ofText?_characters, fun rating _ => rating.ofText?_characters⟩
  obtain ⟨signals, read, same⟩ := sentence.exists_signals
  rw [← lower_of_said said] at read
  exact Filter.ofText_eq_ok_iff.mpr ⟨signals, read, same⟩

/-- A sentence that leaves nothing out. -/
def complete : Sentence where
  watch := some .unwatched
  genre := some "science fiction"
  genreKnown := by decide
  kind := .movies
  year := ⟨"1994".toList, by decide, by decide⟩
  yearLength := by decide
  above := some ⟨⟨"7".toList, by decide, by decide⟩, some ⟨"25".toList, by decide, by decide⟩⟩
  below := some ⟨⟨"10".toList, by decide, by decide⟩, none⟩
  span := some ⟨⟨"30".toList, by decide, by decide⟩, by decide, .weeks⟩

theorem ofText_complete :
    let text := "Unwatched SCIENCE Fiction movies from 1994 rated above 7.25 Rated Below 10 " ++
      "ADDED in the last 30 weeks"
    text.toList.map Char.toLower = complete.characters ∧
      Filter.ofText text = .ok {
        type := some "movie"
        minYear := some 1994
        genre := some "sci-fi"
        minRating := some (.real (Binary64.ofDigits "7".toList "25".toList))
        maxRating := some (.real (Binary64.ofDigits "10".toList []))
        unwatched := some true
        addedWithinDays := some (.int 210) } := by
  intro text
  have said : text.toList.map Char.toLower = complete.characters := by
    decide
  refine ⟨said, (ofText_of_said complete said).1.trans (congrArg Except.ok ?_)⟩
  rfl

end Sentence

end MediaSearch
