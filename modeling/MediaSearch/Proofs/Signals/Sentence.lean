import Mathlib.Data.List.Find
import MediaSearch.Proofs.Phrase.LetterCase
import MediaSearch.Proofs.Signals.Ratings
import MediaSearch.Proofs.Signals.Tables
import MediaSearch.Proofs.Signals.Years

/-!
# Sentences

The plain way to put a wish into words: whether it has been watched, a genre, what kind of item,
from which year on, between which ratings, and how long ago it was added. All but the kind and the
year may be left out.
-/

set_option autoImplicit false

namespace MediaSearch

open Phrase Text

namespace Sentence

inductive Watch where
  | watched | unwatched
  deriving DecidableEq, Repr

def Watch.word : Watch → String
  | .watched => "watched"
  | .unwatched => "unwatched"

inductive Kind where
  | movies | shows | episodes
  deriving DecidableEq, Repr

def Kind.word : Kind → String
  | .movies => "movies"
  | .shows => "shows"
  | .episodes => "episodes"

/-- The type of media that a kind of items has. -/
def Kind.type : Kind → String
  | .movies => "movie"
  | .shows => "show"
  | .episodes => "episode"

inductive Period where
  | days | weeks | months
  deriving DecidableEq, Repr

def Period.word : Period → String
  | .days => "days"
  | .weeks => "weeks"
  | .months => "months"

def Period.length : Period → Nat
  | .days => 1
  | .weeks => 7
  | .months => 30

/-- The names of genres that name nothing else: there is a film in `film-noir`. -/
def genres : List String :=
  Signal.genres.filter (· ≠ "film-noir")

/-- How long ago, with no more digits than an integer may have. -/
structure Span where
  count : Digits
  short : count.characters.length ≤ Integer.maxDigits
  period : Period

def Span.days (span : Span) : Nat :=
  span.count.value * span.period.length

end Sentence

structure Sentence where
  watch : Option Sentence.Watch
  genre : Option String
  genreKnown : ∀ name ∈ genre, name ∈ Sentence.genres
  kind : Sentence.Kind
  year : Digits
  yearLength : year.characters.length = 4
  above : Option Rating
  below : Option Rating
  span : Option Sentence.Span

namespace Sentence

def watchWords (watch : Option Watch) : List (List Char) :=
  watch.toList.map (·.word.toList)

/-- A genre of two words counts as one. -/
def genreWords (genre : Option String) : List (List Char) :=
  genre.toList.map String.toList

def yearWords (year : Digits) : List (List Char) :=
  ["from".toList, year.characters]

def ratingWords (bound : String) : Option Rating → List (List Char)
  | none => []
  | some rating => ["rated".toList, bound.toList, rating.characters]

def spanWords : Option Span → List (List Char)
  | none => []
  | some span => ["added".toList, "in".toList, "the".toList, "last".toList, span.count.characters,
      span.period.word.toList]

/-- The words that say what is asked for. -/
def opening (sentence : Sentence) : List (List Char) :=
  watchWords sentence.watch ++ (genreWords sentence.genre ++ [sentence.kind.word.toList])

/-- The words that say what bounds there are. -/
def bounds (sentence : Sentence) : List (List Char) :=
  yearWords sentence.year ++ (ratingWords "above" sentence.above ++
    (ratingWords "below" sentence.below ++ spanWords sentence.span))

def characters (sentence : Sentence) : List Char :=
  joined (sentence.opening ++ sentence.bounds)

/-- What a sentence says. -/
def filter (sentence : Sentence) : Filter where
  type := some sentence.kind.type
  minYear := some sentence.year.value
  genre := sentence.genre.map Signal.canonicalGenre
  minRating := sentence.above.map fun rating => .real rating.value
  maxRating := sentence.below.map fun rating => .real rating.value
  unwatched := if sentence.watch = some .unwatched then some true else none
  watched := if sentence.watch = some .watched then some true else none
  addedWithinDays := sentence.span.map fun span => .int span.days

/-!
## Words of sentences
-/

def watchVocabulary : List String :=
  ["watched", "unwatched"]

def kindVocabulary : List String :=
  ["movies", "shows", "episodes"]

def openingVocabulary : List String :=
  watchVocabulary ++ (genres ++ kindVocabulary)

def spanVocabulary : List String :=
  ["added", "in", "the", "last", "days", "weeks", "months"]

/-- The words behind the opening, by what bounds there are besides the year. -/
def boundVocabulary (above below span : Bool) : List String :=
  ["from"] ++ ((if above then ["rated", "above"] else []) ++
    ((if below then ["rated", "below"] else []) ++ if span then spanVocabulary else []))

theorem drawnFrom_watch (watch : Option Watch) :
    DrawnFrom watchVocabulary (watchWords watch) := by
  cases watch with
  | none => exact drawnFrom_nil _
  | some watch =>
      have known : watch.word ∈ watchVocabulary := by
        cases watch <;> decide
      exact (drawnFrom_nil _).cons_entry known

theorem drawnFrom_genre {vocabulary : List String} {genre : Option String}
    (known : ∀ name ∈ genre, name ∈ vocabulary) : DrawnFrom vocabulary (genreWords genre) := by
  cases genre with
  | none => exact drawnFrom_nil _
  | some name => exact (drawnFrom_nil _).cons_entry (known name rfl)

theorem drawnFrom_kind (kind : Kind) : DrawnFrom kindVocabulary [kind.word.toList] := by
  have known : kind.word ∈ kindVocabulary := by
    cases kind <;> decide
  exact (drawnFrom_nil _).cons_entry known

theorem drawnFrom_opening (sentence : Sentence) :
    DrawnFrom openingVocabulary sentence.opening :=
  (drawnFrom_watch _).append ((drawnFrom_genre sentence.genreKnown).append (drawnFrom_kind _))

theorem drawnFrom_year (year : Digits) : DrawnFrom ["from"] (yearWords year) :=
  ((drawnFrom_nil _).cons_numeric year.isNumeric).cons_entry List.mem_cons_self

theorem drawnFrom_rating (bound : String) (rating : Option Rating) :
    DrawnFrom (if rating.isSome then ["rated", bound] else []) (ratingWords bound rating) := by
  cases rating with
  | none => exact drawnFrom_nil _
  | some rating =>
      exact (((drawnFrom_nil _).cons_numeric rating.isNumeric).cons_entry (by simp)).cons_entry
        (by simp)

theorem drawnFrom_span (span : Option Span) :
    DrawnFrom (if span.isSome then spanVocabulary else []) (spanWords span) := by
  cases span with
  | none => exact drawnFrom_nil _
  | some span =>
      have period : span.period.word ∈ spanVocabulary := by
        cases span.period <;> decide
      have counted := ((drawnFrom_nil spanVocabulary).cons_entry period).cons_numeric
        span.count.isNumeric
      exact (((counted.cons_entry (by decide)).cons_entry (by decide)).cons_entry
        (by decide)).cons_entry (by decide)

theorem drawnFrom_bounds (sentence : Sentence) :
    DrawnFrom (boundVocabulary sentence.above.isSome sentence.below.isSome sentence.span.isSome)
      sentence.bounds :=
  (drawnFrom_year _).append ((drawnFrom_rating "above" _).append
    ((drawnFrom_rating "below" _).append (drawnFrom_span _)))

/-- Whatever bounds there are, they are told in the same few words. -/
theorem drawnFrom_allBounds (sentence : Sentence) :
    DrawnFrom (boundVocabulary true true true) sentence.bounds := by
  have more : ∀ above below span, boundVocabulary above below span ⊆
      boundVocabulary true true true := by
    decide
  exact sentence.drawnFrom_bounds.mono (more _ _ _)

theorem drawnFrom_words (sentence : Sentence) :
    DrawnFrom (openingVocabulary ++ boundVocabulary sentence.above.isSome sentence.below.isSome
      sentence.span.isSome) (sentence.opening ++ sentence.bounds) :=
  sentence.drawnFrom_opening.append sentence.drawnFrom_bounds

/-- Every word of any sentence. -/
def vocabulary : List String :=
  openingVocabulary ++ boundVocabulary true true true

theorem drawnFrom_vocabulary (sentence : Sentence) :
    DrawnFrom vocabulary (sentence.opening ++ sentence.bounds) :=
  sentence.drawnFrom_opening.append sentence.drawnFrom_allBounds

theorem opening_ne_nil (sentence : Sentence) : sentence.opening ≠ [] := by
  simp [opening]

/-- A sentence cut somewhere behind its opening. -/
theorem characters_eq {sentence : Sentence} {word : List Char} {front back : List (List Char)}
    (split : sentence.bounds = front ++ word :: back) :
    sentence.characters =
      joined (sentence.opening ++ front) ++ ' ' :: (word ++ trailing back) := by
  rw [characters, split, ← List.append_assoc, joined_append, trailing_cons]
  exact List.append_ne_nil_of_left_ne_nil sentence.opening_ne_nil _

/-- The words of sentences are plain letters. -/
theorem letters_of_vocabulary : ∀ entry ∈ vocabulary,
    entry.toList.all (·.toNat < 128) = true ∧ entry.toList.all (!isDigit ·) = true := by
  decide

theorem isPlain_of_mem {sentence : Sentence} {character : Char}
    (member : character ∈ sentence.characters) : IsPlain character := by
  rcases mem_joined member with rfl | ⟨word, said, inside⟩
  · decide
  · rcases sentence.drawnFrom_vocabulary word said with numeric | ⟨entry, known, rfl⟩
    · rcases numeric character inside with digit | rfl
      · exact .inr digit
      · decide
    · exact isPlain_of_all (letters_of_vocabulary entry known).1 character inside

end Sentence

end MediaSearch
