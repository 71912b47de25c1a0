/-!
# Vocabulary

The closed sets of words that filters are made of, and the defaults for what a filter leaves open.
-/

set_option autoImplicit false

namespace MediaSearch

inductive MediaKind where
  | movie | «show» | season | episode | trailer | comic | person | artist | album | track | photo
  | clip | photoAlbum
  deriving DecidableEq, Repr

namespace MediaKind

def all : List MediaKind :=
  [.movie, .show, .season, .episode, .trailer, .comic, .person, .artist, .album, .track, .photo,
    .clip, .photoAlbum]

def name : MediaKind → String
  | .movie => "movie"
  | .show => "show"
  | .season => "season"
  | .episode => "episode"
  | .trailer => "trailer"
  | .comic => "comic"
  | .person => "person"
  | .artist => "artist"
  | .album => "album"
  | .track => "track"
  | .photo => "photo"
  | .clip => "clip"
  | .photoAlbum => "photo_album"

def code : MediaKind → Int
  | .movie => 1
  | .show => 2
  | .season => 3
  | .episode => 4
  | .trailer => 5
  | .comic => 6
  | .person => 7
  | .artist => 8
  | .album => 9
  | .track => 10
  | .photo => 11
  | .clip => 12
  | .photoAlbum => 13

/-- The types of library sections that may hold items of a kind. Kinds that are not searched for by
themselves are looked for among movies. -/
def sectionTypes : MediaKind → List String
  | .show | .episode => ["show"]
  | .artist | .album | .track => ["artist", "music"]
  | _ => ["movie"]

def ofName? (name : String) : Option MediaKind :=
  all.find? (·.name = name)

/-- The kind that the type of a filter stands for. An unknown or missing type counts as movie. -/
def ofType (type : Option String) : MediaKind :=
  (type.bind ofName?).getD .movie

@[simp]
theorem ofName?_name (kind : MediaKind) : ofName? kind.name = some kind := by
  cases kind <;> rfl

end MediaKind

namespace Vocabulary

def mediaTypes : List String := ["movie", "show", "episode", "artist", "album", "track"]

def resolutions : List String := ["sd", "hd", "4k"]

def sortOrders : List String := ["asc", "desc"]

def sortFields : List String :=
  ["titleSort", "year", "rating", "addedAt", "lastViewedAt", "duration", "random"]

def defaultType : String := "movie"

def defaultSort : String := "titleSort"

def defaultSortOrder : String := "asc"

def structuredSortOrder : String := "desc"

def defaultLimit : Int := 25

end Vocabulary

end MediaSearch
