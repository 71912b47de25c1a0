import MediaSearch.Phrase

/-!
# Signals of content ratings

A content rating is read only as a token of its own: neither a word character nor a hyphen may
touch it. So `rated` is not read as R, nor `pg-13` as PG.
-/

set_option autoImplicit false

namespace MediaSearch.Signal

open MediaSearch.Phrase MediaSearch.Text

def contentRatings : List String :=
  ["G", "PG", "PG-13", "R", "NC-17", "TV-Y", "TV-Y7", "TV-G", "TV-PG", "TV-14", "TV-MA"]

/-- The spellings of a label: in lower case, with the hyphen or with a blank in its place. -/
def spellings (label : String) : List (List Char) :=
  let hyphenated := label.toList.map Char.toLower
  [hyphenated, hyphenated.map fun character => if character = '-' then ' ' else character]

/-- Whether a character that touches a token makes it part of something longer. -/
def joinsToken (character : Char) : Bool :=
  isWordCharacter character || character == '-'

def tokenHere (words : List (List Char)) (before : Option Char) (text : List Char) : Bool :=
  !before.any joinsToken && words.any fun word =>
    (after? word text).any fun rest => !rest.head?.any joinsToken

def mentionsToken (text : List Char) (label : String) : Bool :=
  (firstAfter (fun before rest => if tokenHere (spellings label) before rest then some () else none)
    none text).isSome

/-- The first content rating of the table that stands in the text as a token. -/
def contentRating? (text : List Char) : Option String :=
  contentRatings.find? (mentionsToken text)

end MediaSearch.Signal
