import MediaSearch.Integer

/-!
# Durations as text

Hours and minutes from one hour on, minutes and seconds below. Parts of a unit are dropped
downwards. A count of too many digits cannot be written.
-/

set_option autoImplicit false

namespace MediaSearch.Duration

def text (milliseconds : Int) : Except Integer.WriteError String := do
  let seconds := milliseconds / 1000
  let minutes := seconds / 60
  let hours := minutes / 60
  if 0 < hours then
    return (← Integer.write hours) ++ "h " ++ (← Integer.write (minutes % 60)) ++ "m"
  else
    return (← Integer.write minutes) ++ "m " ++ (← Integer.write (seconds % 60)) ++ "s"

end MediaSearch.Duration
