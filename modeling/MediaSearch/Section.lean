import MediaSearch.Filter
import MediaSearch.Vocabulary

/-!
# Library sections

A library is divided into sections, each of which holds items of one type. A search goes to the
section that is asked for, or else to the first whose type suits the items.
-/

set_option autoImplicit false

namespace MediaSearch

structure Section where
  id : String
  type : String
  title : String
  deriving DecidableEq, Repr

namespace Section

/-- The section that a directory entry describes. An entry without a key describes none. -/
def ofEntry? (entry : Entries) : Option Section :=
  let id := (entry.get "key").trimmedText
  if id.isEmpty then none
  else some ⟨id, (entry.get "type").trimmedText, (entry.get "title").trimmedText⟩

def ofEntries (entries : List Entries) : List Section :=
  entries.filterMap ofEntry?

def suits (kind : MediaKind) (candidate : Section) : Bool :=
  kind.sectionTypes.contains candidate.type

/-- The section to search: the one that the filter names, unless its name is empty, or the first
that suits the filter's type. -/
def choose? (filter : Filter) (sections : List Section) : Option String :=
  match filter.sectionId with
  | some id => if id.isEmpty then firstSuitable else some id
  | none => firstSuitable
where
  firstSuitable : Option String :=
    (sections.find? (suits (MediaKind.ofType filter.type))).map (·.id)

end Section

end MediaSearch
