import MediaSearch.Phrase

/-!
# Signals of the watch state

Words for unwatched items win over those for watched ones. Being in progress is a signal of its
own.
-/

set_option autoImplicit false

namespace MediaSearch.Signal

open MediaSearch.Phrase

structure Watching where
  unwatched : Bool
  watched : Bool
  inProgress : Bool
  deriving DecidableEq, Repr

def asksUnwatched (text : List Char) : Bool :=
  ["unwatched", "not watched", "haven't watched"].any (mentions text)

def watching (text : List Char) : Watching where
  unwatched := asksUnwatched text
  watched := !asksUnwatched text && mentions text "watched"
  inProgress := ["in progress", "continue", "started"].any (mentions text)

theorem watching_exclusive (text : List Char) :
    ¬ ((watching text).watched = true ∧ (watching text).unwatched = true) := by
  simp only [watching, Bool.and_eq_true, Bool.not_eq_true']
  intro both
  simp [both.1.1] at both

end MediaSearch.Signal
