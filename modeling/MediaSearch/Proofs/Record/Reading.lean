import MediaSearch.Moment.IsoText
import MediaSearch.Proofs.Binary64.Rounding
import MediaSearch.Proofs.Moment.Range
import MediaSearch.Proofs.Result
import MediaSearch.Record

/-!
# Reading records

A record takes each field from its own value in an entry, and leaves open what it cannot take. Three
kinds of values end the reading of all entries instead: infinities, integers too large for a
floating point number, and seconds beyond the years of moments.
-/

set_option autoImplicit false

namespace MediaSearch.Record

/-!
## Single values
-/

def integer? : Value → Option Int
  | .int value => some value
  | .real (.finite number) => some (Binary64.truncateRat number.value)
  | .text written => Integer.ofText? written.toList
  | _ => none

def real? : Value → Option Binary64
  | .int value => Binary64.ofInt? value
  | .real value => some value
  | .text written => Binary64.ofText? written.toList
  | _ => none

def moment? (value : Value) : Option Moment :=
  (integer? value).bind fun seconds => (Moment.ofUnixSeconds seconds).toOption

/-- An infinity has no whole part to take. -/
def StopsInteger : Value → Prop
  | .real (.infinite _) => True
  | _ => False

def StopsReal : Value → Prop
  | .int value => Binary64.overflow ≤ |(value : ℚ)|
  | _ => False

def StopsMoment (value : Value) : Prop :=
  StopsInteger value ∨ ∃ seconds ∈ integer? value,
    seconds < Moment.firstSecond ∨ Moment.lastSecond < seconds

theorem integer_eq_ok_iff {value : Value} {found : Option Int} :
    integer value = .ok found ↔ ¬ StopsInteger value ∧ found = integer? value := by
  cases value with
  | real number =>
      cases number <;>
        simp [integer, integer?, StopsInteger, Binary64.truncate, Binary64.mapToInt, eq_comm]
  | _ => simp [integer, integer?, StopsInteger, eq_comm]

theorem real_eq_ok_iff {value : Value} {found : Option Binary64} :
    real value = .ok found ↔ ¬ StopsReal value ∧ found = real? value := by
  cases value with
  | int value =>
      unfold real real? StopsReal
      dsimp only
      rw [← Binary64.ofInt?_eq_none_iff]
      cases Binary64.ofInt? value <;> simp [eq_comm]
  | _ => simp [real, real?, StopsReal, eq_comm]

theorem moment_eq_ok_iff {value : Value} {found : Option Moment} :
    moment value = .ok found ↔ ¬ StopsMoment value ∧ found = moment? value := by
  simp only [moment, Result.bind_eq_ok_iff, integer_eq_ok_iff, StopsMoment, not_or, moment?]
  cases integer? value with
  | none => simp [pure, Except.pure, eq_comm]
  | some seconds =>
      -- Only seconds that are no moment stop the reading, once there are seconds.
      have inYears : (¬ ∃ found ∈ some seconds,
          found < Moment.firstSecond ∨ Moment.lastSecond < found) ↔
            ∃ moment, Moment.ofUnixSeconds seconds = .ok moment := by
        rw [Moment.exists_ofUnixSeconds_iff]
        simp
      rw [inYears]
      cases read : Moment.ofUnixSeconds seconds with
      | ok moment =>
          simp [read, Except.mapError, Except.toOption, bind, Except.bind, pure, Except.pure,
            eq_comm]
      | error error => simp [read, Except.mapError, bind, Except.bind]

/-!
## Entries
-/

def Stops (entry : Entries) : Prop :=
  (∃ key ∈ ["year", "duration", "index", "viewCount", "viewOffset"],
    StopsInteger (entry.get key)) ∨
  StopsReal (entry.get "rating") ∨
  ∃ key ∈ ["addedAt", "lastViewedAt"], StopsMoment (entry.get key)

section Lenient

variable (readDate : Moment.Reader)

/-- The record of an entry, with every field left open that cannot be taken. -/
def lenient (entry : Entries) : Record where
  id := (entry.get "ratingKey").trimmedText
  title := (text? (entry.get "title")).getD untitled
  type := (entry.get "type").trimmedText
  year := integer? (entry.get "year")
  rating := real? (entry.get "rating")
  durationMs := integer? (entry.get "duration")
  summary := text? (entry.get "summary")
  «show» := text? (entry.get "grandparentTitle")
  season := text? (entry.get "parentTitle")
  episode := integer? (entry.get "index")
  viewCount := integer? (entry.get "viewCount")
  viewOffsetMs := integer? (entry.get "viewOffset")
  contentRating := text? (entry.get "contentRating")
  studio := text? (entry.get "studio")
  genres := tags (entry.get "Genre")
  directors := tags (entry.get "Director")
  cast := tags (entry.get "Role")
  addedAt := moment? (entry.get "addedAt")
  lastViewedAt := moment? (entry.get "lastViewedAt")
  released := released? readDate (entry.get "originallyAvailableAt")

end Lenient

variable {readDate : Moment.Reader}

theorem ofEntry_eq_ok_iff {entry : Entries} {record : Record} :
    ofEntry readDate entry = .ok record ↔ ¬ Stops entry ∧ record = lenient readDate entry := by
  simp only [ofEntry, Result.bind_eq_ok_iff, integer_eq_ok_iff, real_eq_ok_iff, moment_eq_ok_iff,
    pure, Except.pure, Except.ok.injEq, Stops, List.exists_mem_cons_iff, List.not_mem_nil,
    false_and, exists_false, or_false, not_or]
  constructor
  · rintro ⟨_, ⟨year, rfl⟩, _, ⟨rating, rfl⟩, _, ⟨duration, rfl⟩, _, ⟨episode, rfl⟩, _,
      ⟨viewCount, rfl⟩, _, ⟨viewOffset, rfl⟩, _, ⟨addedAt, rfl⟩, _, ⟨lastViewedAt, rfl⟩, rfl⟩
    exact ⟨⟨⟨year, duration, episode, viewCount, viewOffset⟩, rating, addedAt, lastViewedAt⟩, rfl⟩
  · rintro ⟨⟨⟨year, duration, episode, viewCount, viewOffset⟩, rating, addedAt, lastViewedAt⟩, rfl⟩
    exact ⟨_, ⟨year, rfl⟩, _, ⟨rating, rfl⟩, _, ⟨duration, rfl⟩, _, ⟨episode, rfl⟩, _,
      ⟨viewCount, rfl⟩, _, ⟨viewOffset, rfl⟩, _, ⟨addedAt, rfl⟩, _, ⟨lastViewedAt, rfl⟩, rfl⟩

theorem text?_eq_some_iff {value : Value} {text : String} :
    text? value = some text ↔ text ≠ "" ∧ value.trimmedText = text := by
  simp only [text?, Option.ite_none_left_eq_some, Option.some.injEq, String.isEmpty_iff]
  constructor
  · rintro ⟨present, rfl⟩
    exact ⟨present, rfl⟩
  · rintro ⟨present, rfl⟩
    exact ⟨present, rfl⟩

theorem lenient_title_ne_empty (entry : Entries) : (lenient readDate entry).title ≠ "" := by
  change (text? (entry.get "title")).getD untitled ≠ ""
  cases read : text? (entry.get "title") with
  | none => decide
  | some title => exact (text?_eq_some_iff.mp read).1

theorem empty_not_mem_tags (value : Value) : "" ∉ tags value := by
  cases value with
  | list items =>
      intro present
      obtain ⟨item, _, read⟩ := List.mem_filterMap.mp present
      cases item with
      | object entries => exact (text?_eq_some_iff.mp read).1 rfl
      | _ => cases read
  | _ => exact List.not_mem_nil

/-!
## Lists of entries
-/

theorem ofEntries_eq_ok_iff {entries : List Entries} {records : List Record} :
    ofEntries readDate entries = .ok records ↔
      (∀ entry ∈ entries, ¬ Stops entry) ∧ records = entries.map (lenient readDate) := by
  induction entries generalizing records with
  | nil =>
      constructor
      · intro read
        cases read
        exact ⟨List.forall_mem_nil _, rfl⟩
      · rintro ⟨_, rfl⟩
        rfl
  | cons entry entries ih =>
      have inTurn : ofEntries readDate (entry :: entries) = (do
          let record ← ofEntry readDate entry
          let records ← ofEntries readDate entries
          return record :: records) := List.mapM_cons
      simp only [inTurn, Result.bind_eq_ok_iff, ofEntry_eq_ok_iff, ih, pure, Except.pure,
        Except.ok.injEq, List.forall_mem_cons, List.map_cons]
      constructor
      · rintro ⟨_, ⟨goes, rfl⟩, _, ⟨go, rfl⟩, rfl⟩
        exact ⟨⟨goes, go⟩, rfl⟩
      · rintro ⟨⟨goes, go⟩, rfl⟩
        exact ⟨_, ⟨goes, rfl⟩, _, ⟨go, rfl⟩, rfl⟩

/-- Entries are read one by one into records with a title and without empty tags, each field from
its own value and open where that value cannot be taken, unless a value in one of the entries ends
the reading of them all. -/
theorem ofEntries_reads_unless_stopped (readDate : Moment.Reader) (entries : List Entries) :
    ((∀ entry ∈ entries, ¬ Stops entry) →
      ofEntries readDate entries = .ok (entries.map (lenient readDate))) ∧
    ((∃ entry ∈ entries, Stops entry) → ∃ error, ofEntries readDate entries = .error error) ∧
    ∀ record ∈ entries.map (lenient readDate), record.title ≠ "" ∧
      "" ∉ record.genres ∧ "" ∉ record.directors ∧ "" ∉ record.cast := by
  refine ⟨fun goes => ofEntries_eq_ok_iff.mpr ⟨goes, rfl⟩, ?_, ?_⟩
  · rintro ⟨entry, member, stops⟩
    cases read : ofEntries readDate entries with
    | ok records => exact absurd stops ((ofEntries_eq_ok_iff.mp read).1 entry member)
    | error error => exact ⟨error, rfl⟩
  · intro record member
    obtain ⟨entry, _, rfl⟩ := List.mem_map.mp member
    exact ⟨lenient_title_ne_empty entry, empty_not_mem_tags _, empty_not_mem_tags _,
      empty_not_mem_tags _⟩

/-- A time in milliseconds, where seconds are expected, ends the reading of an otherwise plain
entry. -/
theorem ofEntries_stopped_by_milliseconds :
    ofEntries Moment.ofIsoText? [[("ratingKey", .text "42"), ("title", .text "Alien"),
      ("type", .text "movie"), ("addedAt", .int 1700000000000)]] =
        .error (.moment (.yearOutOfRange 55840)) := by
  rfl

end MediaSearch.Record
