import NearbyBeacons.Binary64.Text
import NearbyBeacons.Decimal
import NearbyBeacons.Text.Lowercase
import NearbyBeacons.Toml.MarkedMoment
/-!
# Loose values

Settings come from files and from the environment, where a number may be written as a
text and a switch as a number. A loose value is what a source says; what a field makes
of it is decided by the type of the field.
-/

namespace NearbyBeacons

/-- A value as a source gives it. -/
inductive Loose where
  /-- Nothing: an item of an array that no source has given. -/
  | nil
  | bool (b : Bool)
  | integer (n : Int)
  | real (x : Binary64)
  | string (s : String)
  | array (items : List Loose)
  | table (members : List (String × Loose))
  deriving Inhabited

namespace Loose

/-! ### From TOML -/

mutual

/-- The loose value of a TOML value. Dates and times are texts. -/
def ofToml? : Toml.Value → Option Loose
  | .string s => some (.string s)
  | .integer n => some (.integer n)
  | .float x => some (.real x)
  | .bool b => some (.bool b)
  | .moment text => some (.string text)
  | .array items => (ofItems? items).map .array
  | .table _ members => ofTable? members
  | .tables earlier last => do some (.array ((← ofTables? earlier) ++ [← ofTable? last]))

/-- The loose values of items. -/
def ofItems? : List Toml.Value → Option (List Loose)
  | [] => some []
  | v :: rest => do some ((← ofToml? v) :: (← ofItems? rest))

/-- The loose values of members. -/
def ofMembers? : List (String × Toml.Value) → Option (List (String × Loose))
  | [] => some []
  | (name, v) :: rest => do some ((name, ← ofToml? v) :: (← ofMembers? rest))

/-- The loose value of a table, which may stand for a date or time. -/
def ofTable? (members : List (String × Toml.Value)) : Option Loose :=
  match Toml.markedMoment? members with
  | some text => text.map .string
  | none => (ofMembers? members).map .table

/-- The loose values of tables. -/
def ofTables? : List (List (String × Toml.Value)) → Option (List Loose)
  | [] => some []
  | members :: rest => do some ((← ofTable? members) :: (← ofTables? rest))

end

/-! ### To fields -/

/-- The whole number nearest to a float, within the range of a word; zero for a NaN. -/
def wordOfReal (x : Binary64) : Nat :=
  match x.datum with
  | .finite false m e => min (Binary64.roundAway m e) (Decimal.wordSize - 1)
  | .infinite false => Decimal.wordSize - 1
  | _ => 0

/-- What a number field makes of a value. -/
def toNat? : Loose → Option Nat
  | integer n => if 0 ≤ n then some n.toNat else none
  | real x => some (wordOfReal x)
  | bool b => some (if b then 1 else 0)
  | string s =>
    match Text.lowercaseText s with
    | "true" | "yes" | "on" => some 1
    | "false" | "no" | "off" => some 0
    | s => Decimal.word? s.toList
  | _ => none

/-- What a switch makes of a value. -/
def toBool? : Loose → Option Bool
  | bool b => some b
  | integer n => some (n != 0)
  | real x => some (!x.isZero)
  | string s =>
    match Text.lowercaseText s with
    | "true" | "yes" | "on" | "1" => some true
    | "false" | "no" | "off" | "0" => some false
    | _ => none
  | _ => none

/-- What a text field makes of a value. -/
def toText? : Loose → Option String
  | string s => some s
  | integer n => some (Decimal.intText n)
  | real x => some (String.ofList x.shortest)
  | bool b => some (if b then "true" else "false")
  | _ => none

/-- A field of a section: the member of that name of a table, or the item at that position
of an array, and `absent` without one. -/
def field? {α : Type} (section' : Loose) (position : Nat) (name : String) (absent : α)
    (convert : Loose → Option α) : Option α :=
  match section' with
  | table members => match members.lookup name with
    | some v => convert v
    | none => some absent
  | array items => match items[position]? with
    | some v => convert v
    | none => some absent
  | _ => none

end Loose

end NearbyBeacons
