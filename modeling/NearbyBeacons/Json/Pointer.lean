import NearbyBeacons.Decimal
import NearbyBeacons.Json.Value
/-!
# JSON pointers

A pointer names a part of a value: names of members and positions of items with a slash
before each. `~1` stands for a slash in a name and `~0` for a tilde.
-/

namespace NearbyBeacons.Json

/-- The name that a step of a pointer stands for. -/
def pointerName : List Char → List Char
  | '~' :: '1' :: rest => '/' :: pointerName rest
  | '~' :: '0' :: rest => '~' :: pointerName rest
  | c :: rest => c :: pointerName rest
  | [] => []

/-- The position that a step of a pointer stands for: digits without a leading zero. -/
def pointerIndex? (cs : List Char) : Option Nat :=
  match cs with
  | '0' :: _ :: _ => none
  | cs => Decimal.nat? cs

/-- The part of a value that the steps of a pointer lead to. -/
def follow? : List (List Char) → Json → Option Json
  | [], j => some j
  | step :: rest, .object members =>
    (members.lookup (String.ofList (pointerName step))).bind (follow? rest)
  | step :: rest, .array items =>
    (pointerIndex? (pointerName step)).bind fun i => items[i]?.bind (follow? rest)
  | _, _ => none

/-- The part of a value that a pointer names. The empty pointer names the whole. -/
def pointer? (pointer : String) (j : Json) : Option Json :=
  match pointer.toList with
  | [] => some j
  | '/' :: steps => follow? (steps.splitOn '/') j
  | _ => none

end NearbyBeacons.Json
