import MediaSearch.Proofs.Record.Reading
import MediaSearch.Proofs.Text.Endings
import MediaSearch.Record.Card

/-!
# Listings of records

A listing shows what the cards show. The labels of its lines and the entries of cards are kept apart,
but every entry that the headline does not show has a label and none has two. Blanks are cut off at
the end of a listing only, where nothing but line ends stands, since no text of a record ends with a
blank.
-/

set_option autoImplicit false

namespace MediaSearch.Record

/-!
## What a listing is to show
-/

def yearNote (record : Record) : String :=
  match record.year with
  | none | some 0 => ""
  | some year => " (" ++ Integer.text year ++ ")"

def headline (number : Nat) (record : Record) : String :=
  Integer.text number ++ ". " ++ record.title ++ record.yearNote ++ " [" ++ record.type ++ "]"

/-- The entries of a card that the headline shows or leaves out. -/
def headlineNames : List String := ["ratingKey", "title", "type", "year"]

/-- The line of an entry, behind the label of the entry's name. -/
def IsDetail (entry : NamedScalar) (line : String) : Prop :=
  ∃ label, (entry.1, label) ∈ labels ∧ line = "   " ++ label ++ ": " ++ entry.2.display

/-- A headline, and exactly one line for each entry of the card that the headline does not show, in
the order of the labels. -/
def IsBlock (number : Nat) (record : Record) (card : List NamedScalar) (block : String) : Prop :=
  ∃ details lines, details.Perm (card.filter fun entry => entry.1 ∉ headlineNames) ∧
    (details.map (·.1)).Sublist (labels.map (·.1)) ∧ List.Forall₂ IsDetail details lines ∧
    block = "\n".intercalate (headline number record :: lines)

/-- The blocks of records with their cards, numbered on from the given number. -/
inductive Blocks : Nat → List Record → List String → Prop where
  | done {number : Nat} : Blocks number [] []
  | next {number : Nat} {record : Record} {card : List NamedScalar} {block : String}
      {records : List Record} {blocks : List String} :
      record.card = .ok card → IsBlock number record card block →
      Blocks (number + 1) records blocks → Blocks number (record :: records) (block :: blocks)

/-!
## Entries of cards
-/

/-- The names of a card that lacks nothing. -/
def cardNames : List String :=
  ["ratingKey", "title", "type", "year", "rating", "duration", "summary", "show", "season",
    "episode", "viewCount", "progress", "contentRating", "studio", "genres", "directors",
    "starring"]

theorem nodup_cardNames : cardNames.Nodup := by
  decide

theorem nodup_labels : (labels.map (·.1)).Nodup := by
  decide

/-- Every entry of a card is shown in the headline or has a label, and none both. -/
theorem mem_labels_iff {name : String} (member : name ∈ cardNames) :
    name ∈ labels.map (·.1) ↔ name ∉ headlineNames := by
  have all : cardNames.all fun name =>
      decide (name ∈ labels.map (·.1) ↔ name ∉ headlineNames) := by decide
  exact of_decide_eq_true (List.all_eq_true.mp all name member)

theorem map_fst_line_sublist (name : String) (value : Option Scalar) :
    ((line name value).map (·.1)).Sublist [name] := by
  cases value with
  | none => exact List.nil_sublist _
  | some value => exact List.Sublist.refl _

theorem mem_line_iff {name : String} {value : Option Scalar} {entry : NamedScalar} :
    entry ∈ line name value ↔ entry.1 = name ∧ entry.2 ∈ value := by
  cases value with
  | none => simp [line]
  | some value => simp [line, Prod.ext_iff, eq_comm]

theorem map_fst_card_sublist {record : Record} {card : List NamedScalar}
    (shown : record.card = .ok card) : (card.map (·.1)).Sublist cardNames := by
  obtain ⟨duration, -, rest⟩ := Result.bind_eq_ok_iff.mp shown
  obtain ⟨progress, -, written⟩ := Result.bind_eq_ok_iff.mp rest
  cases written
  simp only [List.map_append]
  change List.Sublist _ (headlineNames ++ ["rating"] ++ ["duration"] ++ ["summary"] ++ ["show"] ++
    ["season"] ++ ["episode"] ++ ["viewCount"] ++ ["progress"] ++ ["contentRating"] ++ ["studio"] ++
    ["genres"] ++ ["directors"] ++ ["starring"])
  iterate 13 refine List.Sublist.append ?_ (map_fst_line_sublist _ _)
  exact List.Sublist.refl _

theorem nodup_card {record : Record} {card : List NamedScalar} (shown : record.card = .ok card) :
    (card.map (·.1)).Nodup :=
  (map_fst_card_sublist shown).nodup nodup_cardNames

/-- The entries of a card that have a label, in the order of the labels. -/
def details (card : List NamedScalar) : List NamedScalar :=
  labels.filterMap fun named => (card.lookup named.1).map fun value => (named.1, value)

theorem map_fst_details_sublist (card : List NamedScalar) :
    ((details card).map (·.1)).Sublist (labels.map (·.1)) :=
  Keyed.map_fst_filterMap_sublist (·.1) (fun named => card.lookup named.1) labels

theorem lookup_eq_some_iff {card : List NamedScalar} (distinct : (card.map (·.1)).Nodup)
    {name : String} {value : Scalar} : card.lookup name = some value ↔ (name, value) ∈ card := by
  rw [List.lookup_eq_some_iff]
  constructor
  · rintro ⟨before, after, rfl, -⟩
    exact List.mem_append_right _ List.mem_cons_self
  · intro member
    obtain ⟨before, after, rfl⟩ := List.append_of_mem member
    refine ⟨before, after, rfl, fun earlier found => bne_iff_ne.mpr ?_⟩
    rintro rfl
    rw [List.map_append] at distinct
    exact List.disjoint_of_nodup_append distinct (List.mem_map_of_mem found) List.mem_cons_self

theorem mem_details_iff {card : List NamedScalar} (distinct : (card.map (·.1)).Nodup)
    {entry : NamedScalar} :
    entry ∈ details card ↔ entry ∈ card ∧ entry.1 ∈ labels.map (·.1) := by
  unfold details
  simp only [List.mem_filterMap, Option.map_eq_some_iff, lookup_eq_some_iff distinct, List.mem_map]
  constructor
  · rintro ⟨named, labelled, value, member, rfl⟩
    exact ⟨member, named, labelled, rfl⟩
  · rintro ⟨member, named, labelled, same⟩
    exact ⟨named, labelled, entry.2, by rwa [same], by rw [same]⟩

theorem details_perm {record : Record} {card : List NamedScalar} (shown : record.card = .ok card) :
    (details card).Perm (card.filter fun entry => entry.1 ∉ headlineNames) := by
  have distinct := nodup_card shown
  have detailsDistinct := (map_fst_details_sublist card).nodup nodup_labels
  rw [List.perm_ext_iff_of_nodup detailsDistinct.of_map (distinct.of_map.filter _)]
  intro entry
  rw [mem_details_iff distinct, List.mem_filter, decide_eq_true_eq]
  apply and_congr_right
  intro member
  exact mem_labels_iff ((map_fst_card_sublist shown).subset (List.mem_map_of_mem member))

/-!
## Texts of a record
-/

/-- Whatever a card has behind a label ends visibly. -/
def Presentable (card : List NamedScalar) : Prop :=
  ∀ entry ∈ card, entry.1 ∈ headlineNames ∨ Text.EndsVisibly entry.2.display

theorem Presentable.append {front back : List NamedScalar} (first : Presentable front)
    (second : Presentable back) : Presentable (front ++ back) :=
  List.forall_mem_append.mpr ⟨first, second⟩

theorem presentable_line {name : String} {value : Option Scalar}
    (ends : ∀ shown ∈ value, Text.EndsVisibly shown.display) : Presentable (line name value) :=
  fun _ member => .inr (ends _ (mem_line_iff.mp member).2)

theorem endsVisibly_filledText {text : Option String}
    (ends : ∀ shown ∈ text, Text.EndsVisibly shown) :
    ∀ shown ∈ filledText text, Text.EndsVisibly shown.display := by
  intro shown filled
  obtain ⟨written, held, found⟩ := Option.bind_eq_some_iff.mp filled
  obtain ⟨-, same⟩ := Option.ite_none_left_eq_some.mp found
  obtain rfl := Option.some.inj same
  exact ends written held

theorem endsVisibly_int {value : Option Int} :
    ∀ shown ∈ value.map Scalar.int, Text.EndsVisibly shown.display := by
  intro shown held
  obtain ⟨number, -, rfl⟩ := Option.map_eq_some_iff.mp held
  exact Integer.endsVisibly_text number

theorem endsVisibly_intercalate {separator : String} {texts : List String} (filled : texts ≠ [])
    (ends : ∀ text ∈ texts, Text.EndsVisibly text) :
    Text.EndsVisibly (separator.intercalate texts) := by
  induction texts with
  | nil => exact absurd rfl filled
  | cons first rest ih =>
      obtain ⟨here, later⟩ := List.forall_mem_cons.mp ends
      cases rest with
      | nil => rwa [String.intercalate_singleton]
      | cons second rest =>
          rw [String.intercalate_cons_of_ne_nil (List.cons_ne_nil _ _)]
          exact (ih (List.cons_ne_nil _ _) later).append _

theorem endsVisibly_joined {names : List String} (ends : ∀ name ∈ names, Text.EndsVisibly name) :
    ∀ shown ∈ joined names, Text.EndsVisibly shown.display := by
  intro shown filled
  obtain ⟨present, same⟩ := Option.ite_none_left_eq_some.mp filled
  obtain rfl := Option.some.inj same
  exact endsVisibly_intercalate (mt List.isEmpty_iff.mpr present) ends

theorem endsVisibly_shortSummary {summary : String} (ends : Text.EndsVisibly summary) :
    Text.EndsVisibly (shortSummary summary) := by
  unfold shortSummary
  dsimp only
  split
  · exact Text.EndsVisibly.append _ ⟨'.', rfl, rfl⟩
  · exact ends

theorem endsVisibly_of_duration {milliseconds : Int} {written : String}
    (told : Duration.text milliseconds = .ok written) : Text.EndsVisibly written := by
  unfold Duration.text at told
  dsimp only at told
  split at told
  · obtain ⟨hours, -, rest⟩ := Result.bind_eq_ok_iff.mp told
    obtain ⟨minutes, -, last⟩ := Result.bind_eq_ok_iff.mp rest
    cases last
    exact Text.EndsVisibly.append _ ⟨'m', rfl, rfl⟩
  · obtain ⟨minutes, -, rest⟩ := Result.bind_eq_ok_iff.mp told
    obtain ⟨seconds, -, last⟩ := Result.bind_eq_ok_iff.mp rest
    cases last
    exact Text.EndsVisibly.append _ ⟨'s', rfl, rfl⟩

theorem endsVisibly_of_duration? {record : Record} {known : Option String}
    (found : record.duration? = .ok known) : ∀ written ∈ known, Text.EndsVisibly written := by
  unfold duration? at found
  split at found
  · obtain ⟨written, told, rfl⟩ := Result.map_eq_ok_iff.mp found
    rintro _ ⟨⟩
    exact endsVisibly_of_duration (Result.mapError_eq_ok_iff.mp told)
  · cases found
    exact fun _ held => nomatch held

theorem endsVisibly_of_progress {offset duration : Int} {percentage : String}
    (computed : progress offset duration = .ok percentage) : Text.EndsVisibly percentage := by
  unfold progress at computed
  split at computed
  · cases computed
  · obtain ⟨rounded, -, found⟩ := Result.bind_eq_ok_iff.mp computed
    cases found
    exact Text.EndsVisibly.append _ ⟨'%', rfl, rfl⟩

theorem endsVisibly_of_progress? {record : Record} {known : Option String}
    (found : record.progress? = .ok known) : ∀ percentage ∈ known, Text.EndsVisibly percentage := by
  intro percentage held
  obtain rfl := Option.mem_def.mp held
  unfold progress? at found
  split at found
  · obtain ⟨written, computed, same⟩ := Result.map_eq_ok_iff.mp found
    cases same
    exact endsVisibly_of_progress computed
  · cases found

theorem endsVisibly_of_text? {value : Value} {text : String} (read : text? value = some text) :
    Text.EndsVisibly text := by
  obtain ⟨present, rfl⟩ := text?_eq_some_iff.mp read
  cases value with
  | null => exact absurd rfl present
  | _ => exact Text.endsVisibly_trim present

theorem endsVisibly_of_mem_tags {value : Value} {tag : String} (member : tag ∈ tags value) :
    Text.EndsVisibly tag := by
  cases value with
  | list items =>
      obtain ⟨item, -, read⟩ := List.mem_filterMap.mp member
      cases item with
      | object entries => exact endsVisibly_of_text? read
      | _ => cases read
  | _ => cases member

variable {readDate : Moment.Reader}

theorem presentable_card {entry : Entries} {card : List NamedScalar}
    (shown : (lenient readDate entry).card = .ok card) : Presentable card := by
  obtain ⟨duration, told, rest⟩ := Result.bind_eq_ok_iff.mp shown
  obtain ⟨progress, known, written⟩ := Result.bind_eq_ok_iff.mp rest
  cases written
  have text (key : String) : ∀ shown ∈ filledText (text? (entry.get key)),
      Text.EndsVisibly shown.display :=
    endsVisibly_filledText fun _ => endsVisibly_of_text?
  have tags (key : String) : ∀ shown ∈ joined (tags (entry.get key)),
      Text.EndsVisibly shown.display :=
    endsVisibly_joined fun _ => endsVisibly_of_mem_tags
  -- One case for each group of entries, in the order of the card.
  repeat' refine Presentable.append ?_ ?_
  · exact fun entry member => .inl (List.mem_map_of_mem (f := Prod.fst) member)
  · refine presentable_line fun shown held => ?_
    obtain ⟨rating, -, rfl⟩ := Option.map_eq_some_iff.mp held
    exact rating.endsVisibly_text
  · refine presentable_line fun shown held => ?_
    obtain ⟨written, read, rfl⟩ := Option.map_eq_some_iff.mp held
    exact endsVisibly_of_duration? told written read
  · refine presentable_line (endsVisibly_filledText fun shown held => ?_)
    obtain ⟨summary, read, rfl⟩ := Option.map_eq_some_iff.mp held
    exact endsVisibly_shortSummary (endsVisibly_of_text? read)
  · exact presentable_line (text "grandparentTitle")
  · exact presentable_line (text "parentTitle")
  · exact presentable_line endsVisibly_int
  · exact presentable_line endsVisibly_int
  · refine presentable_line fun shown held => ?_
    obtain ⟨written, computed, rfl⟩ := Option.map_eq_some_iff.mp held
    exact endsVisibly_of_progress? known written computed
  · exact presentable_line (text "contentRating")
  · exact presentable_line (text "studio")
  · exact presentable_line (tags "Genre")
  · exact presentable_line (tags "Director")
  · exact presentable_line (endsVisibly_joined fun _ member =>
      endsVisibly_of_mem_tags (List.mem_of_mem_take member))

/-!
## Blocks
-/

theorem forall₂_isDetail (card : List NamedScalar) :
    List.Forall₂ IsDetail (details card) (labels.filterMap fun named =>
      (card.lookup named.1).map fun value => "   " ++ named.2 ++ ": " ++ value.display) := by
  have written (rest : List (String × String)) (known : rest ⊆ labels) :
      List.Forall₂ IsDetail
        (rest.filterMap fun named => (card.lookup named.1).map fun value => (named.1, value))
        (rest.filterMap fun named => (card.lookup named.1).map fun value =>
          "   " ++ named.2 ++ ": " ++ value.display) := by
    induction rest with
    | nil => exact .nil
    | cons named rest ih =>
        obtain ⟨here, later⟩ := List.cons_subset.mp known
        cases held : card.lookup named.1 with
        | none =>
            simp only [List.filterMap_cons, held, Option.map_none]
            exact ih later
        | some value =>
            simp only [List.filterMap_cons, held, Option.map_some]
            exact .cons ⟨named.2, here, rfl⟩ (ih later)
  exact written labels (List.Subset.refl _)

theorem heading_eq_headline (number : Nat) (record : Record) :
    heading number record = headline number record := by
  unfold heading headline yearNote filledInt
  cases record.year with
  | none => rfl
  | some year =>
      by_cases zero : year = 0
      · subst zero
        rfl
      · have kept : (some year).filter (· != 0) = some year :=
          Option.filter_some_pos (bne_iff_ne.mpr zero)
        rw [kept]
        split
        · contradiction
        · rename_i same
          cases same
          contradiction
        · rename_i same
          cases same
          rfl

theorem isBlock_of_block {entry : Entries} {number : Nat} {lines : List String}
    (shown : block number (lenient readDate entry) = .ok lines) :
    lines ≠ [] ∧ Text.EndsVisibly ("\n".intercalate lines) ∧
      ∃ card, (lenient readDate entry).card = .ok card ∧
        IsBlock number (lenient readDate entry) card ("\n".intercalate lines) := by
  obtain ⟨card, shownCard, written⟩ := Result.bind_eq_ok_iff.mp shown
  cases written
  rw [heading_eq_headline]
  refine ⟨List.cons_ne_nil _ _, ?_, card, shownCard, ⟨details card, _, details_perm shownCard,
    map_fst_details_sublist card, forall₂_isDetail card, rfl⟩⟩
  apply endsVisibly_intercalate (List.cons_ne_nil _ _)
  rw [List.forall_mem_cons]
  constructor
  · exact Text.EndsVisibly.append _ ⟨']', rfl, rfl⟩
  · intro text member
    obtain ⟨named, labelled, found⟩ := List.mem_filterMap.mp member
    obtain ⟨value, held, rfl⟩ := Option.map_eq_some_iff.mp found
    have present := (lookup_eq_some_iff (nodup_card shownCard)).mp held
    have known := (map_fst_card_sublist shownCard).subset (List.mem_map_of_mem present)
    have below := (mem_labels_iff known).mp (List.mem_map_of_mem labelled)
    rcases presentable_card shownCard _ present with above | ends
    · exact absurd above below
    · exact ends.append _

/-!
## Listings
-/

/-- Groups of lines with an empty line behind each are the texts of the groups, an empty line between
any two, and a line end. -/
theorem intercalate_flatMap {groups : List (List String)} (filled : groups ≠ [])
    (lines : ∀ group ∈ groups, group ≠ []) :
    "\n".intercalate (groups.flatMap (· ++ [""])) =
      "\n\n".intercalate (groups.map "\n".intercalate) ++ "\n" := by
  induction groups with
  | nil => exact absurd rfl filled
  | cons group rest ih =>
      obtain ⟨here, later⟩ := List.forall_mem_cons.mp lines
      have first : "\n".intercalate (group ++ [""]) = "\n".intercalate group ++ "\n" := by
        rw [String.intercalate_append_of_ne_nil here (List.cons_ne_nil _ _),
          String.intercalate_singleton, String.append_empty]
      cases rest with
      | nil => simpa using first
      | cons second rest =>
          have below : (second :: rest).flatMap (· ++ [""]) ≠ [] := by simp
          have others : (second :: rest).map "\n".intercalate ≠ [] := by simp
          rw [List.flatMap_cons, String.intercalate_append_of_ne_nil (by simp) below, first,
            ih (List.cons_ne_nil _ _) later, List.map_cons (l := second :: rest),
            String.intercalate_cons_of_ne_nil others]
          have lineEnds : "\n" ++ "\n" = "\n\n" := rfl
          rw [← lineEnds]
          simp only [String.append_assoc]

theorem exists_groups {entries : List Entries} {number : Nat} {lines : List String}
    (shown : blocksFrom number (entries.map (lenient readDate)) = .ok lines) :
    ∃ groups : List (List String), lines = groups.flatMap (· ++ [""]) ∧
      (∀ group ∈ groups, group ≠ []) ∧
      (∀ group ∈ groups, Text.EndsVisibly ("\n".intercalate group)) ∧
      Blocks number (entries.map (lenient readDate)) (groups.map "\n".intercalate) := by
  induction entries generalizing number lines with
  | nil =>
      cases shown
      exact ⟨[], rfl, List.forall_mem_nil _, List.forall_mem_nil _, .done⟩
  | cons entry entries ih =>
      obtain ⟨first, shownFirst, rest⟩ := Result.bind_eq_ok_iff.mp shown
      obtain ⟨later, shownLater, written⟩ := Result.bind_eq_ok_iff.mp rest
      cases written
      obtain ⟨filled, ends, card, shownCard, isBlock⟩ := isBlock_of_block shownFirst
      obtain ⟨groups, rfl, all, allEnd, blocks⟩ := ih shownLater
      refine ⟨first :: groups, rfl, List.forall_mem_cons.mpr ⟨filled, all⟩,
        List.forall_mem_cons.mpr ⟨ends, allEnd⟩, .next shownCard isBlock blocks⟩

theorem error?_block (number : Nat) (record : Record) :
    Result.error? (block number record) = Result.error? record.card := by
  rw [block, Result.error?_bind_pure]

theorem error?_blocksFrom (records : List Record) (number : Nat) :
    Result.error? (blocksFrom number records) = Result.error? (cards records) := by
  induction records generalizing number with
  | nil => rfl
  | cons record records ih =>
      have inTurn : cards (record :: records) = (do
          let card ← record.card
          let cards ← cards records
          return card :: cards) := List.mapM_cons
      have laterBlocks (lines : List String) : Result.error? (do
          return lines ++ [""] ++ (← blocksFrom (number + 1) records)) =
            Result.error? (cards records) := by
        rw [Result.error?_bind_pure, ih]
      have laterCards (card : List NamedScalar) : Result.error? (do
          let cards ← cards records
          return card :: cards) = Result.error? (cards records) := by
        rw [Result.error?_bind_pure]
      rw [inTurn, blocksFrom, Result.error?_bind laterBlocks, Result.error?_bind laterCards,
        error?_block]

/-- A listing shows the cards of its records, each in a block of its own, and fails exactly where the
cards fail. All of every block is there, with an empty line between any two and one line end at
last. -/
theorem listing_shows_cards {entries : List Entries} {records : List Record}
    (read : ofEntries readDate entries = .ok records) :
    (∀ error, listing records = .error error ↔ cards records = .error error) ∧
    ∀ text, listing records = .ok text →
      ∃ blocks, Blocks 1 records blocks ∧ text = "\n\n".intercalate blocks ++ "\n" := by
  obtain ⟨-, rfl⟩ := ofEntries_eq_ok_iff.mp read
  constructor
  · intro error
    rw [← Result.error?_eq_some_iff, ← Result.error?_eq_some_iff, listing,
      Result.error?_bind_pure, error?_blocksFrom]
  · intro text shown
    obtain ⟨lines, shownLines, written⟩ := Result.bind_eq_ok_iff.mp shown
    cases written
    obtain ⟨groups, rfl, all, allEnd, blocks⟩ := exists_groups shownLines
    refine ⟨_, blocks, congrArg (· ++ "\n") ?_⟩
    cases groups with
    | nil => rfl
    | cons group groups =>
        rw [intercalate_flatMap (List.cons_ne_nil _ _) all]
        apply Text.trimEnd_append _ (by decide)
        exact endsVisibly_intercalate (List.cons_ne_nil _ _) (List.forall_mem_map.mpr allEnd)

/-- The listing of a film and of an entry that holds nothing. -/
theorem listing_shows_cards_of_film :
    let entries : List Entries := [[("ratingKey", .int 42), ("title", .text " Alien "),
      ("type", .text "movie"), ("year", .int 1979), ("duration", .int 7020000),
      ("Genre", .list [.object [("tag", .text "Horror")], .object [("tag", .text "Space ")]])], []]
    let text :=
      "1. Alien (1979) [movie]\n   Duration: 1h 57m\n   Genres: Horror, Space\n\n2. Untitled []\n"
    ∃ records, ofEntries Moment.ofIsoText? entries = .ok records ∧ ∃ blocks, Blocks 1 records blocks ∧
      "\n\n".intercalate blocks ++ "\n" = text := by
  intro entries text
  have read : ofEntries Moment.ofIsoText? entries =
      .ok (entries.map (lenient Moment.ofIsoText?)) := rfl
  have shown : listing (entries.map (lenient Moment.ofIsoText?)) = .ok text := by decide +kernel
  obtain ⟨blocks, isBlock, written⟩ := (listing_shows_cards read).2 _ shown
  exact ⟨_, read, blocks, isBlock, written.symm⟩

end MediaSearch.Record
