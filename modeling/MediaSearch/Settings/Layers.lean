import MediaSearch.Value

/-!
# Layers of settings

Entries are laid over one another key by key. Where both layers hold an object under a key, the
objects are laid over one another in turn; otherwise the top layer's value replaces the other.
-/

set_option autoImplicit false

namespace MediaSearch

mutual

/-- The value that a top layer's value makes of what lies below it, if anything does. -/
def Value.laidOver (top : Value) (below : Option Value) : Value :=
  match top with
  | .object entries =>
      match below with
      | some (.object base) => .object (Entries.layered entries base)
      | _ => .object entries
  | plain => plain
termination_by structural top

/-- Lays entries over a base, with the top layer first. Keys of the base keep their places, and new
keys follow in order. -/
def Entries.layered (top : List (String × Value)) (base : List (String × Value)) :
    List (String × Value) :=
  match top with
  | [] => base
  | (key, value) :: rest =>
      Entries.layered rest (Keyed.put base key (Value.laidOver value (base.lookup key)))
termination_by structural top

end

def Entries.overlay (base top : Entries) : Entries :=
  Entries.layered top base

end MediaSearch
