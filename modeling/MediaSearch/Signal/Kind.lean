import MediaSearch.Phrase

/-!
# Signals of kind, genre, resolution and sort order

Ordered tables of words: the first entry that the text mentions decides, wherever in the text
it stands.
-/

set_option autoImplicit false

namespace MediaSearch.Signal

open MediaSearch.Phrase

/-- The value of the first row one of whose words the text mentions. -/
def firstMentioned {α : Type} (table : List (List String × α)) (text : List Char) : Option α :=
  (table.find? fun row => row.1.any (mentions text)).map (·.2)

def typeTable : List (List String × String) :=
  [(["movie", "film"], "movie"), (["show", "series", "tv"], "show"), (["episode"], "episode")]

def genreTable : List (List String × String) :=
  (["action", "adventure", "animation", "anime", "biography", "comedy", "crime", "documentary",
    "drama", "family", "fantasy", "film-noir", "history", "horror", "musical", "mystery",
    "romance", "sci-fi"].map fun name => ([name], name)) ++
  [(["science fiction"], "sci-fi")] ++
  (["sport", "thriller", "war", "western"].map fun name => ([name], name))

def resolutionTable : List (List String × String) :=
  [(["4k", "uhd"], "4k"), (["hd"], "hd")]

/-- A wish for an order: a sort field and, unless the order is random, a direction. -/
structure Order where
  field : String
  direction : Option String
  deriving DecidableEq, Repr

/-- Words for wishes for an order, in order of precedence. -/
def orderTable : List (List String × Order) :=
  [(["best", "top rated", "highest rated"], ⟨"rating", some "desc"⟩),
    (["newest", "latest", "recent"], ⟨"addedAt", some "desc"⟩),
    (["oldest"], ⟨"year", some "asc"⟩),
    (["random", "surprise"], ⟨"random", none⟩)]

/-- The type of media that a text mentions. -/
def type? (text : List Char) : Option String := firstMentioned typeTable text

def genre? (text : List Char) : Option String := firstMentioned genreTable text

def resolution? (text : List Char) : Option String := firstMentioned resolutionTable text

def order? (text : List Char) : Option Order := firstMentioned orderTable text

end MediaSearch.Signal
