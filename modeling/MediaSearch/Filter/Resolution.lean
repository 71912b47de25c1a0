import MediaSearch.Filter
import MediaSearch.Vocabulary

/-!
# Resolved filters

A filter is resolved by laying what was asked for explicitly over what was found in a text, and by
filling in type, sort field, sort order and page size. Contradictory constraints pass through.
-/

set_option autoImplicit false

namespace MediaSearch.Filter

/-- A text in place of a missing or empty one. -/
def textOr (fallback : String) (text : Option String) : String :=
  match text with
  | none => fallback
  | some text => if text.isEmpty then fallback else text

/-- The filter with type, sort field, sort order and page size filled in. Any sort order but the
descending one is the ascending one. -/
def withDefaults (filter : Filter) (limit : Option Int) : Filter :=
  { filter with
    type := some (textOr Vocabulary.defaultType filter.type)
    sort := some (textOr Vocabulary.defaultSort filter.sort)
    sortOrder := some
      (if filter.sortOrder = some "desc" then "desc" else Vocabulary.defaultSortOrder)
    limit := some ((filter.limit.or limit).getD Vocabulary.defaultLimit) }

/-- Resolves a filter found in a text and one given explicitly, either of which may be missing. -/
def resolve (extracted explicit : Option Filter) (limit : Option Int) : Filter :=
  let found := extracted.getD {}
  let merged := match explicit with
    | some explicit => found.overlay explicit
    | none => found
  merged.withDefaults limit

end MediaSearch.Filter
