import NearbyBeacons.Binary64.Text
import NearbyBeacons.Decimal
import NearbyBeacons.Text.Ascii
/-!
# JSON values and their text

Values as the program writes them, and the compact text of a value: no blanks, the
members of an object in the order they are held in, characters outside ASCII as
they are.
-/

namespace NearbyBeacons

/-- A JSON value. Whole numbers are kept apart from the other ones. -/
inductive Json where
  | null
  | bool (b : Bool)
  | integer (n : Int)
  | real (x : Binary64)
  | string (s : String)
  | array (items : List Json)
  | object (members : List (String × Json))
  deriving Inhabited

namespace Json

/-- A string, or `null` in place of none. -/
def optional {α : Type} (f : α → Json) : Option α → Json
  | none => .null
  | some a => f a

/-- The value of member `name`, `null` for a value without it. -/
def member (name : String) : Json → Json
  | .object members => (members.find? (·.1 == name)).map (·.2) |>.getD .null
  | _ => .null

/-! ### Text -/

/-- The escape of the characters that a string cannot hold, and the others as they
are. -/
def escapeChar (c : Char) : List Char :=
  match c with
  | '"' => ['\\', '"']
  | '\\' => ['\\', '\\']
  | '\x08' => ['\\', 'b']
  | '\x0C' => ['\\', 'f']
  | '\n' => ['\\', 'n']
  | '\r' => ['\\', 'r']
  | '\t' => ['\\', 't']
  | c =>
    if c.toNat < 0x20 then
      ['\\', 'u', '0', '0', Ascii.hexDigitLower (c.toNat / 16), Ascii.hexDigitLower (c.toNat % 16)]
    else [c]

/-- A string between quotes. -/
def quoted (s : String) : List Char := '"' :: s.toList.flatMap escapeChar ++ ['"']

/-- A number that is not whole. Infinities and NaN, which JSON has no text for, are
written as `null`. -/
def realText (x : Binary64) : List Char :=
  match x.datum with
  | .finite negative m e =>
    let s := if m = 0 then ⟨0, 0⟩ else Binary64.shortestDecimal m e
    Binary64.signed negative
      (Decimal.digits s.digits ++ '.' :: '0' :: 'e' :: Decimal.int s.exponent)
  | _ => ['n', 'u', 'l', 'l']

/-- `parts` with commas between them. -/
def commaSeparated : List (List Char) → List Char
  | [] => []
  | [part] => part
  | part :: rest => part ++ ',' :: commaSeparated rest

mutual

/-- The compact text of a value. -/
def text : Json → List Char
  | .null => ['n', 'u', 'l', 'l']
  | .bool true => ['t', 'r', 'u', 'e']
  | .bool false => ['f', 'a', 'l', 's', 'e']
  | .integer n => Decimal.int n
  | .real x => realText x
  | .string s => quoted s
  | .array items => '[' :: commaSeparated (itemTexts items) ++ [']']
  | .object members => '{' :: commaSeparated (memberTexts members) ++ ['}']

/-- The texts of the items of an array. -/
def itemTexts : List Json → List (List Char)
  | [] => []
  | item :: rest => text item :: itemTexts rest

/-- The texts of the members of an object. -/
def memberTexts : List (String × Json) → List (List Char)
  | [] => []
  | (name, value) :: rest => (quoted name ++ ':' :: text value) :: memberTexts rest

end

/-- The compact text of a value, as a string. -/
def render (j : Json) : String := String.ofList j.text

end NearbyBeacons.Json
