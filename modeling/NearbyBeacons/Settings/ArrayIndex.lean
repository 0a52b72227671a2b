/-!
# Positions in arrays of settings

A position in an array counts from its start or, when it is negative, from its end. An
array grows up to the position that something is written at, so a position past the end is
a good one; one before the start is not, and neither is one that no memory reaches.
-/

namespace NearbyBeacons

/-- Why nothing can be written at a position. -/
inductive IndexFault where
  /-- The position counts from the end to before the start. -/
  | beforeStart
  /-- An array with such a position would be too long. -/
  | tooFar
  deriving DecidableEq, Repr

/-- The words of a fault. -/
def IndexFault.message : IndexFault → String
  | beforeStart => "attempt to subtract with overflow"
  | tooFar => "capacity overflow"

/-- The number of items that no array has. -/
def arrayLimit : Nat := 72057594037927936

/-- The position `i` of an array of the given length, counted from its start. -/
def arrayIndex (i : Int) (length : Nat) : Except IndexFault Nat :=
  let fromStart := if i < 0 then length + i else i
  if fromStart < 0 then .error .beforeStart
  else if arrayLimit ≤ fromStart.toNat then .error .tooFar
  else .ok fromStart.toNat

end NearbyBeacons
