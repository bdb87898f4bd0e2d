/-!
# Repeated keys

Entries of a list of optional keys that an earlier entry has already, each with
the position of the first one.
-/

namespace EditorBlocks.Validation

/-- The first position of the key of entry `i`, if that is an earlier one. -/
def earlier? (keys : List (Option String)) (i : Nat) : Option Nat :=
  match keys[i]? with
  | some (some key) =>
    let first := keys.idxOf (some key)
    if first < i then some first else none
  | _ => none

def repeats (keys : List (Option String)) : List (Nat × Nat) :=
  (List.range keys.length).filterMap fun i => (earlier? keys i).map fun first => (i, first)

end EditorBlocks.Validation
