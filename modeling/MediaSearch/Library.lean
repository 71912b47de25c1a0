import MediaSearch.Client
import MediaSearch.Filter.Resolution
import MediaSearch.Moment.IsoText
import MediaSearch.Signal

/-!
# Searching a library

Free texts and structured filters are resolved, compiled and searched for. Sections are listed only
where a filter names none.
-/

set_option autoImplicit false

namespace MediaSearch

structure Library where
  client : Client
  limit : Int := Vocabulary.defaultLimit
  readDate : Moment.Reader := Moment.ofIsoText?

/-- What a search found: a message for the user, the text and what it says if there is one, the
filter that was searched for, and the records. -/
structure Outcome where
  message : String
  query : Option String
  extracted : Option Filter
  filters : Filter
  records : List Record

namespace Library

def sections (library : Library) : Action (List Section) := do
  return Section.ofEntries (← library.client.sectionEntries)

/-- The sections that a filter may have to choose from: none if it names one itself. -/
def candidates (library : Library) (filter : Filter) : Action (List Section) :=
  if (filter.sectionId.getD "").isEmpty then library.sections else return []

def compile (library : Library) (filter : Filter) : Action Query := do
  let sections ← library.candidates filter
  let query ← Action.ofExcept .query (Query.ofFilter filter sections (← get).now)
  (query.notes filter).forM Action.detail
  return query

def search (library : Library) (filter : Filter) : Action (List Record) := do
  let query ← library.compile filter
  let items ← library.client.itemEntries query
  Action.detail ("Plex returned " ++ Integer.text items.length ++ " items for section=" ++
    query.sectionId)
  Action.ofExcept .record (Record.ofEntries library.readDate items)

def extract (text : String) : Action Filter := do
  let signals ← Action.ofExcept .numeral (Signals.ofText text)
  Action.detail ("Extracted filters from " ++ Text.quoted text ++ ": " ++
    (Scalar.objectOf signals.found).quoted)
  return signals.toFilter

/-- The page size that is asked for, or that of the library. -/
def limitOr (library : Library) (limit : Option Int) : Option Int :=
  some (limit.getD library.limit)

def resolveText (library : Library) (text : String) (sectionId : Option String)
    (limit : Option Int) : Action Filter := do
  let extracted ← extract text
  let explicit := (sectionId.filter fun id => !id.isEmpty).map fun id =>
    ({ sectionId := some id } : Filter)
  return Filter.resolve (some extracted) explicit (library.limitOr limit)

def compileText (library : Library) (text : String) (sectionId : Option String)
    (limit : Option Int) : Action Query := do
  library.compile (← library.resolveText text sectionId limit)

def searchText (library : Library) (text : String) (limit : Option Int) : Action Outcome := do
  let extracted ← extract text
  let resolved := Filter.resolve (some extracted) none (library.limitOr limit)
  Action.info ("Smart search " ++ Text.quoted text ++ " -> " ++ resolved.toValue.quoted)
  let records ← library.search resolved
  let message :=
    if records.isEmpty then "No results found for: \"" ++ text ++ "\""
    else "Found " ++ Integer.text records.length ++ " result(s) for: \"" ++ text ++ "\""
  return ⟨message, some text, some extracted, resolved, records⟩

def searchStructured (library : Library) (value : Value) : Action Outcome := do
  let explicit ← Action.ofExcept .structured (Filter.ofValue "filter" value)
  let resolved := Filter.resolve none (some explicit) (some library.limit)
  Action.info ("Advanced search -> " ++ resolved.toValue.quoted)
  let records ← library.search resolved
  let message :=
    if records.isEmpty then "No results found matching your criteria"
    else "Found " ++ Integer.text records.length ++ " result(s)"
  return ⟨message, none, none, resolved, records⟩

end Library

end MediaSearch
