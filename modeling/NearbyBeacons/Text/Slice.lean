import NearbyBeacons.Decimal
import NearbyBeacons.Text.Quoted
/-!
# Slices of a text by bytes

A slice is given by the places of its ends, counted in bytes of UTF-8. A place inside a
character cuts it, and a slice with such an end is refused.
-/

namespace NearbyBeacons.Text

/-- An end of a slice that lies inside a character. -/
structure Cut where
  /-- Whether the slice starts here; otherwise it ends here. -/
  starts : Bool
  /-- The place, in bytes. -/
  place : Nat
  char : Char
  /-- The place of the first byte of the character. -/
  first : Nat
  deriving DecidableEq, Repr

/-- The sentence that reports a cut. -/
def Cut.message (c : Cut) : String :=
  (if c.starts then "start" else "end") ++ " byte index " ++ Decimal.natText c.place ++
    " is not a char boundary; it is inside '" ++ String.ofList (quotedChar c.char) ++
    "' (bytes " ++ Decimal.natText c.first ++ ".." ++
    Decimal.natText (c.first + c.char.utf8Size) ++ " of string)"

/-- The character that `place` cuts, with the place of its first byte; `offset` is the
place where `cs` starts. -/
def around? (place offset : Nat) : List Char → Option (Char × Nat)
  | [] => none
  | c :: rest =>
    if place ≤ offset then none
    else if place < offset + c.utf8Size then some (c, offset)
    else around? place (offset + c.utf8Size) rest

/-- A place in `cs` that cuts no character. -/
def checkEnd (starts : Bool) (place : Nat) (cs : List Char) : Except Cut Unit :=
  match around? place 0 cs with
  | some (char, first) => .error { starts, place, char, first }
  | none => .ok ()

/-- `cs` without its first `n` bytes. -/
def dropBytes (n : Nat) : List Char → List Char
  | [] => []
  | c :: rest => if n = 0 then c :: rest else dropBytes (n - c.utf8Size) rest

/-- The first `n` bytes of `cs`. -/
def takeBytes (n : Nat) : List Char → List Char
  | [] => []
  | c :: rest => if n = 0 then [] else c :: takeBytes (n - c.utf8Size) rest

/-- The part of `cs` between two places. -/
def slice (start past : Nat) (cs : List Char) : Except Cut (List Char) := do
  checkEnd true start cs
  checkEnd false past cs
  return takeBytes (past - start) (dropBytes start cs)

/-- The part of `cs` from a place on. -/
def sliceFrom (start : Nat) (cs : List Char) : Except Cut (List Char) := do
  checkEnd true start cs
  return dropBytes start cs

end NearbyBeacons.Text
