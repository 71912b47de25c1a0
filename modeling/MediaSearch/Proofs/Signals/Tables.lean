import MediaSearch.Proofs.Signals.Amounts

/-!
# Signals from ordered tables

The genre and the content rating of a text are the first entries of their tables that the text
mentions, wherever it does so. A genre may stand inside of longer words, a content rating stands by
itself, so that no label is taken for one inside of it.
-/

set_option autoImplicit false

namespace MediaSearch.Signal

open Phrase Text

/-- The first entry of a table of which something holds, if there is one. -/
inductive FirstIn {α : Type} (table : List α) (holds : α → Prop) : Option α → Prop where
  | found {earlier later : List α} {entry : α} :
      table = earlier ++ entry :: later → holds entry → (∀ other ∈ earlier, ¬ holds other) →
      FirstIn table holds (some entry)
  | absent : (∀ entry ∈ table, ¬ holds entry) → FirstIn table holds none

variable {α : Type} {table : List α}

theorem firstIn_find? {test : α → Bool} {holds : α → Prop}
    (agrees : ∀ entry ∈ table, test entry = true ↔ holds entry) :
    FirstIn table holds (table.find? test) := by
  cases found : table.find? test with
  | some entry =>
      obtain ⟨passes, earlier, later, split, others⟩ := List.find?_eq_some_iff_append.mp found
      have member : entry ∈ table := List.mem_of_find?_eq_some found
      refine .found split ((agrees entry member).mp passes) fun other first holds => ?_
      have listed : other ∈ table := split ▸ List.mem_append_left _ first
      simpa [(agrees other listed).mpr holds] using others other first
  | none =>
      refine .absent fun entry member holds => ?_
      exact List.find?_eq_none.mp found entry member ((agrees entry member).mpr holds)

/-- The first entry depends on nothing but what holds of each. -/
theorem FirstIn.unique {holds others : α → Prop} {first second : Option α}
    (left : FirstIn table holds first) (right : FirstIn table others second)
    (same : ∀ entry ∈ table, holds entry ↔ others entry) : first = second := by
  cases left with
  | absent clean =>
      cases right with
      | absent => rfl
      | found split hit _ =>
          have member := split ▸ List.mem_append_cons_self
          exact absurd ((same _ member).mpr hit) (clean _ member)
  | @found before behind entry split hit clean =>
      have member : entry ∈ table := split ▸ List.mem_append_cons_self
      cases right with
      | absent otherClean => exact absurd ((same _ member).mp hit) (otherClean _ member)
      | @found otherBefore otherBehind other otherSplit otherHit otherClean =>
          have otherMember : other ∈ table := otherSplit ▸ List.mem_append_cons_self
          -- Neither entry stands before the other, where nothing holds.
          rcases List.append_eq_append_iff.mp (split.symm.trans otherSplit) with
            ⟨_ | ⟨between, more⟩, rfl, rest⟩ | ⟨_ | ⟨between, more⟩, rfl, rest⟩
          · exact congrArg some (List.cons.inj rest).1
          · obtain ⟨rfl, _⟩ := List.cons.inj rest
            exact absurd ((same _ member).mp hit) (otherClean _ List.mem_append_cons_self)
          · exact congrArg some (List.cons.inj rest).1.symm
          · obtain ⟨rfl, _⟩ := List.cons.inj rest
            exact absurd ((same _ otherMember).mpr otherHit) (clean _ List.mem_append_cons_self)

/-!
## Genres
-/

/-- Names of genres. One genre has two of them. -/
def genres : List String :=
  ["action", "adventure", "animation", "anime", "biography", "comedy", "crime", "documentary",
    "drama", "family", "fantasy", "film-noir", "history", "horror", "musical", "mystery", "romance",
    "sci-fi", "science fiction", "sport", "thriller", "war", "western"]

/-- The name by which a genre is searched for. -/
def canonicalGenre (genre : String) : String :=
  if genre = "science fiction" then "sci-fi" else genre

theorem genreTable_eq : genreTable = genres.map fun genre => ([genre], canonicalGenre genre) := by
  decide

theorem genre?_eq (text : List Char) :
    genre? text = (genres.find? (mentions text)).map canonicalGenre := by
  have single : ((fun row : List String × String => row.1.any (mentions text)) ∘
      fun genre => ([genre], canonicalGenre genre)) = mentions text :=
    funext fun genre => Bool.or_false _
  rw [genre?, firstMentioned, genreTable_eq, List.find?_map, Option.map_map, single]
  rfl

/-!
## Content ratings
-/

/-- A character that makes a label a part of something longer: one of a word, or a hyphen. -/
inductive Joins : Char → Prop where
  | word {character : Char} : isWordCharacter character = true → Joins character
  | hyphen : Joins '-'

/-- Two parts of a text leave what stands between them by itself: neither a word character nor a
hyphen touches it. -/
structure LeavesAlone (before after : List Char) : Prop where
  before : ∀ character ∈ before.getLast?, ¬ Joins character
  after : ∀ character ∈ after.head?, ¬ Joins character

/-- How a label is spelt in a text: in lower case, with its hyphen or with a blank in its place. -/
inductive Spells (label : String) : List Char → Prop where
  | whole : Spells label (lower label.toList)
  | blank {front back : List Char} :
      lower label.toList = front ++ '-' :: back → Spells label (front ++ ' ' :: back)

/-- A spelling of a label stands somewhere in a text by itself. -/
def MentionsLabel (text : List Char) (label : String) : Prop :=
  ∃ before spelling after, text = before ++ (spelling ++ after) ∧ Spells label spelling ∧
    LeavesAlone before after

theorem joinsToken_iff {character : Char} : joinsToken character = true ↔ Joins character := by
  rw [joinsToken, Bool.or_eq_true, beq_iff_eq]
  constructor
  · rintro (word | rfl)
    · exact .word word
    · exact .hyphen
  · intro joins
    cases joins with
    | word inWord => exact .inl inWord
    | hyphen => exact .inr rfl

theorem any_joinsToken_eq_false_iff {touching : Option Char} :
    touching.any joinsToken = false ↔ ∀ character ∈ touching, ¬ Joins character := by
  cases touching with
  | none => simp
  | some character => simp [← joinsToken_iff]

theorem leavesAlone_iff {before after : List Char} : LeavesAlone before after ↔
    before.getLast?.any joinsToken = false ∧ after.head?.any joinsToken = false := by
  rw [any_joinsToken_eq_false_iff, any_joinsToken_eq_false_iff]
  exact ⟨fun alone => ⟨alone.before, alone.after⟩, fun alone => ⟨alone.1, alone.2⟩⟩

theorem LeavesAlone.of_inner {front before behind after : List Char}
    (alone : LeavesAlone before after) (leads : front <:+ before) (follows : behind <+: after) :
    LeavesAlone front behind := by
  obtain ⟨earlier, rfl⟩ := leads
  obtain ⟨later, rfl⟩ := follows
  constructor
  · intro character last
    exact alone.before character (List.mem_getLast?_append_of_mem_getLast? last)
  · intro character first
    exact alone.after character (List.mem_head?_append_of_mem_head? first)

/-- A label has one hyphen at most, and its lowercase letters are basic ones. -/
theorem lower_label : ∀ label ∈ contentRatings,
    label.toList.map Char.toLower = lower label.toList ∧ (lower label.toList).count '-' ≤ 1 := by
  decide

theorem map_blank_of_not_mem {text : List Char} (plain : '-' ∉ text) :
    (text.map fun character => if character = '-' then ' ' else character) = text := by
  refine (List.map_congr_left fun character member => if_neg ?_).trans (List.map_id text)
  rintro rfl
  exact plain member

theorem map_blank_of_split {front back : List Char} (plain : '-' ∉ front) (single : '-' ∉ back) :
    ((front ++ '-' :: back).map fun character => if character = '-' then ' ' else character) =
      front ++ ' ' :: back := by
  rw [List.map_append, List.map_cons, map_blank_of_not_mem plain, map_blank_of_not_mem single,
    if_pos rfl]

theorem mem_spellings_iff {label : String} (known : label ∈ contentRatings)
    {spelling : List Char} : spelling ∈ spellings label ↔ Spells label spelling := by
  obtain ⟨same, once⟩ := lower_label label known
  have apart {front back : List Char} (split : lower label.toList = front ++ '-' :: back) :
      '-' ∉ front ∧ '-' ∉ back := by
    rw [split, List.count_append, List.count_cons_self] at once
    exact ⟨List.count_eq_zero.mp (by omega), List.count_eq_zero.mp (by omega)⟩
  rw [spellings, same]
  simp only [List.mem_cons, List.not_mem_nil, or_false]
  constructor
  · rintro (rfl | rfl)
    · exact .whole
    · by_cases hyphen : '-' ∈ lower label.toList
      · obtain ⟨front, back, split⟩ := List.append_of_mem hyphen
        rw [split, map_blank_of_split (apart split).1 (apart split).2]
        exact .blank split
      · rw [map_blank_of_not_mem hyphen]
        exact .whole
  · intro spells
    cases spells with
    | whole => exact .inl rfl
    | blank split =>
        rw [split, map_blank_of_split (apart split).1 (apart split).2]
        exact .inr rfl

theorem recognises_token (words : List (List Char)) :
    Recognises (fun before rest => if tokenHere words before rest then some () else none)
      fun before after _ => ∃ word ∈ words, ∃ rest, after = word ++ rest ∧
        LeavesAlone before rest := by
  intro before after value
  dsimp only
  rw [Option.ite_none_right_eq_some, and_iff_left rfl]
  simp only [tokenHere, Bool.and_eq_true, Bool.not_eq_true', List.any_eq_true, Option.any_eq_true,
    after?_eq_some_iff, leavesAlone_iff]
  constructor
  · rintro ⟨alone, word, member, rest, split, ended⟩
    exact ⟨word, member, rest, split, alone, ended⟩
  · rintro ⟨word, member, rest, split, alone, ended⟩
    exact ⟨alone, word, member, rest, split, ended⟩

theorem mentionsToken_iff {text : List Char} {label : String} (known : label ∈ contentRatings) :
    mentionsToken text label = true ↔ MentionsLabel text label := by
  rw [mentionsToken, isSome_firstAfter_iff (recognises_token _)]
  constructor
  · rintro ⟨before, _, _, rfl, spelling, spelled, after, rfl, alone⟩
    exact ⟨before, spelling, after, rfl, (mem_spellings_iff known).mp spelled, alone⟩
  · rintro ⟨before, spelling, after, rfl, spelled, alone⟩
    exact ⟨before, _, (), rfl, spelling, (mem_spellings_iff known).mpr spelled, after, rfl, alone⟩

theorem lower_label_joins : ∀ label ∈ contentRatings,
    (lower label.toList).all joinsToken = true := by
  decide

theorem spellings_apart : ∀ label ∈ contentRatings, ∀ other ∈ contentRatings,
    lower label.toList ∈ spellings other → label = other := by
  decide

/-- Where a label is written with its hyphen, no other label stands by itself inside of it. -/
theorem not_leavesAlone_of_inside {label other : String} (known : label ∈ contentRatings)
    (otherKnown : other ∈ contentRatings) (different : label ≠ other)
    {front spelling back : List Char} (split : lower label.toList = front ++ (spelling ++ back))
    (spelled : Spells other spelling) (before after : List Char) :
    ¬ LeavesAlone (before ++ front) (back ++ after) := by
  have joins := List.all_eq_true.mp (lower_label_joins label known)
  rw [split] at joins
  simp only [List.forall_mem_append] at joins
  obtain ⟨frontJoins, _, backJoins⟩ := joins
  intro alone
  have noFront : front = [] := by
    cases last : front.getLast? with
    | none => exact List.getLast?_eq_none_iff.mp last
    | some character =>
        have joined := joinsToken_iff.mp (frontJoins character (List.mem_of_getLast? last))
        exact absurd joined
          (alone.before character (List.mem_getLast?_append_of_mem_getLast? last))
  have noBack : back = [] := by
    cases back with
    | nil => rfl
    | cons character back =>
        have joined := joinsToken_iff.mp (backJoins character List.mem_cons_self)
        exact absurd joined (alone.after character rfl)
  subst noFront noBack
  rw [List.nil_append, List.append_nil] at split
  rw [← mem_spellings_iff otherKnown, ← split] at spelled
  exact different (spellings_apart label known other otherKnown spelled)

/-!
## Both signals
-/

theorem firstIn_genre (text : List Char) :
    FirstIn genres (fun genre => genre.toList <:+: text) (genres.find? (mentions text)) :=
  firstIn_find? fun _ _ => occursIn_iff

theorem firstIn_contentRating (text : List Char) :
    FirstIn contentRatings (MentionsLabel text) (contentRating? text) :=
  firstIn_find? fun _ known => mentionsToken_iff known

/-- The genre and the content rating of a text are the first entries of their tables that the text
mentions, and none without a mention. A text that is read has them in its filter. So texts that
mention the same have the same, in whatever order they do, and a label that is written with its
hyphen is never read as another one inside of it. -/
theorem genre_and_contentRating_first_in_tables (text : String) :
    (∃ genre label,
      FirstIn genres (fun genre => genre.toList <:+: lower text.toList) genre ∧
      genre? (lower text.toList) = genre.map canonicalGenre ∧
      FirstIn contentRatings (MentionsLabel (lower text.toList)) label ∧
      contentRating? (lower text.toList) = label ∧
      ((∃ filter, Filter.ofText text = .ok filter ∧ filter.genre = genre.map canonicalGenre ∧
          filter.contentRating = label) ∨
        ∃ error, Filter.ofText text = .error error ∧ Integer.maxDigits < error.digits)) ∧
    (∀ other : String,
      ((∀ genre ∈ genres,
          genre.toList <:+: lower text.toList ↔ genre.toList <:+: lower other.toList) →
        genre? (lower text.toList) = genre? (lower other.toList)) ∧
      ((∀ label ∈ contentRatings,
          MentionsLabel (lower text.toList) label ↔ MentionsLabel (lower other.toList) label) →
        contentRating? (lower text.toList) = contentRating? (lower other.toList))) ∧
    ∀ label ∈ contentRatings, ∀ other ∈ contentRatings, label ≠ other →
      ∀ before front spelling back after, lower label.toList = front ++ (spelling ++ back) →
        Spells other spelling → ¬ LeavesAlone (before ++ front) (back ++ after) := by
  refine ⟨⟨_, _, firstIn_genre _, genre?_eq _, firstIn_contentRating _, rfl, ?_⟩, ?_, ?_⟩
  · cases read : Filter.ofText text with
    | error error => exact .inr ⟨error, rfl, Filter.maxDigits_lt_of_ofText_eq_error read⟩
    | ok filter =>
        obtain ⟨signals, found, rfl⟩ := Filter.ofText_eq_ok_iff.mp read
        obtain ⟨_, _, _, _, _, _, rfl⟩ := Signals.ofLowered_eq_ok_iff.mp found
        exact .inl ⟨_, rfl, genre?_eq _, rfl⟩
  · intro other
    refine ⟨fun same => ?_, fun same => ?_⟩
    · rw [genre?_eq, genre?_eq, (firstIn_genre _).unique (firstIn_genre _) same]
    · exact (firstIn_contentRating _).unique (firstIn_contentRating _) same
  · intro label known other otherKnown different before front spelling back after split spelled
    exact not_leavesAlone_of_inside known otherKnown different split spelled before after

/-- The table of genres has comedy before war, and that of ratings PG-13 before TV-Y7. In the second
text they stand the other way round. Neither label is read as the one that it begins with. -/
theorem genre_and_contentRating_of_war_comedy :
    let text := "War or comedy, TV Y7 or PG-13"
    let other := "pg-13, tv-y7: comedies are no comedy of war"
    (∃ filter, Filter.ofText text = .ok filter ∧ filter.genre = some "comedy" ∧
      filter.contentRating = some "PG-13") ∧
    genre? (lower text.toList) = genre? (lower other.toList) ∧
    contentRating? (lower text.toList) = contentRating? (lower other.toList) ∧
    ¬ LeavesAlone ("a ".toList ++ []) ("-13".toList ++ " film".toList) := by
  intro text other
  obtain ⟨⟨genre, label, firstGenre, genreRead, firstLabel, labelRead, read⟩, order, inside⟩ :=
    genre_and_contentRating_first_in_tables text
  have comedy : genre? (lower text.toList) = some "comedy" := by decide +kernel
  have cautious : contentRating? (lower text.toList) = some "PG-13" := by decide +kernel
  have sameGenres : ∀ genre ∈ genres,
      genre.toList <:+: lower text.toList ↔ genre.toList <:+: lower other.toList := by
    decide +kernel
  have sameLabels : ∀ label ∈ contentRatings,
      MentionsLabel (lower text.toList) label ↔ MentionsLabel (lower other.toList) label := by
    have same : ∀ label ∈ contentRatings,
        mentionsToken (lower text.toList) label = mentionsToken (lower other.toList) label := by
      decide +kernel
    intro label known
    rw [← mentionsToken_iff known, ← mentionsToken_iff known, same label known]
  refine ⟨?_, (order other).1 sameGenres, (order other).2 sameLabels, ?_⟩
  · rcases read with ⟨filter, extracted, hasGenre, hasLabel⟩ | ⟨error, fails, -⟩
    · rw [← genreRead, comedy] at hasGenre
      rw [← labelRead, cautious] at hasLabel
      exact ⟨filter, extracted, hasGenre, hasLabel⟩
    · have succeeds : (Filter.ofText text).toBool = true := by decide +kernel
      rw [fails] at succeeds
      cases succeeds
  · exact inside "PG-13" (by decide) "PG" (by decide) (by decide) "a ".toList [] "pg".toList
      "-13".toList " film".toList (by decide) .whole

end MediaSearch.Signal
