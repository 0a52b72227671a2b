import NearbyBeacons.Text.Ascii
import NearbyBeacons.Text.Lowercase
import NearbyBeacons.Text.UnshownTable
/-!
# Quoted texts for the log

A text between double quotes in which every character shows: quotes, backslashes and
the common control characters are escaped, and characters that do not show by
themselves are named by their code point.
-/

namespace NearbyBeacons.Text

/-- The lower case hexadecimal digits of `n`. -/
def hexDigits (n : Nat) : List Char := Nat.toDigits 16 n

/-- A character as a quoted text shows it. -/
def quotedChar (c : Char) : List Char :=
  match c with
  | '\x00' => ['\\', '0']
  | '\t' => ['\\', 't']
  | '\r' => ['\\', 'r']
  | '\n' => ['\\', 'n']
  | '"' => ['\\', '"']
  | '\\' => ['\\', '\\']
  | c =>
    if inRanges c.toNat unshownRanges then ['\\', 'u', '\x7B'] ++ hexDigits c.toNat ++ ['\x7D']
    else [c]

/-- A text between quotes. -/
def quoted (s : String) : String := String.ofList ('"' :: s.toList.flatMap quotedChar ++ ['"'])

end NearbyBeacons.Text
