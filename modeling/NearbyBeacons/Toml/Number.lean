import NearbyBeacons.Decimal
import NearbyBeacons.Text.Ascii
import NearbyBeacons.Toml.Value
/-!
# Numbers of a TOML text

Whole numbers are signed words. Decimal ones have no leading zeros; hexadecimal, octal and
binary ones have a mark in front and no sign. A point, an exponent, `inf` or `nan` makes a
number a float. Single underscores may stand between digits.
-/

namespace NearbyBeacons.Toml

/-- The digits of a run, after its first one: `done` holds those so far, the last first.
An underscore counts only between digits. -/
def runFrom (isDigit : Char → Bool) (done : List Char) : List Char → List Char × List Char
  | [] => (done.reverse, [])
  | '_' :: c :: rest =>
    if isDigit c then runFrom isDigit (c :: done) rest else (done.reverse, '_' :: c :: rest)
  | c :: rest => if isDigit c then runFrom isDigit (c :: done) rest else (done.reverse, c :: rest)

/-- A run of digits. -/
def run? (isDigit : Char → Bool) : List Char → Option (List Char × List Char)
  | [] => none
  | c :: rest => if isDigit c then some (runFrom isDigit [c] rest) else none

/-- The digits before a point: a lone zero, or a run that starts with another digit. -/
def leadingRun? : List Char → Option (List Char × List Char)
  | '0' :: rest => some (['0'], rest)
  | cs => run? Char.isDigit cs

/-- A number that fits a signed word. -/
def word? (n : Int) : Option Value :=
  if Decimal.fitsSigned n then some (.integer n) else none

/-- The value of digits of the given base, at most sixteen. -/
def ofDigits (base : Nat) (digits : List Char) : Nat :=
  digits.foldl (fun n c => base * n + (Ascii.hexValue? c).getD 0) 0

/-- A whole number after the mark of its base. -/
def based? (base : Nat) (isDigit : Char → Bool) (cs : List Char) : Option (Value × List Char) := do
  let (digits, rest) ← run? isDigit cs
  some (← word? (ofDigits base digits), rest)

/-- A minus sign in front of a number, and what follows the sign, if there is one. -/
def sign : List Char → Bool × List Char
  | '-' :: rest => (true, rest)
  | '+' :: rest => (false, rest)
  | cs => (false, cs)

/-- The digits after a point. -/
def fractionRun? : List Char → Option (List Char × List Char)
  | '.' :: rest => run? Char.isDigit rest
  | cs => some ([], cs)

/-- The exponent, if there is one. -/
def exponent? : List Char → Option (Option Int × List Char)
  | 'e' :: rest | 'E' :: rest => do
    let (negative, rest) := sign rest
    let (digits, rest) ← run? Char.isDigit rest
    let n : Int := Decimal.value digits
    some (some (if negative then -n else n), rest)
  | cs => some (none, cs)

/-- A float of the given digits. One that is too large stands for an infinity, which is
refused without a minus sign. -/
def float? (negative : Bool) (whole fraction : List Char) (exponent : Int) : Option Value :=
  let x := Binary64.ofDecimal negative (Decimal.value (whole ++ fraction))
    (exponent - fraction.length)
  if x = Binary64.infinity false then none else some (.float x)

/-- A decimal number after its sign. -/
def decimal? (negative : Bool) (cs : List Char) : Option (Value × List Char) := do
  let (whole, rest) ← leadingRun? cs
  let (fraction, rest) ← fractionRun? rest
  let (exponent, rest) ← exponent? rest
  if fraction.isEmpty && exponent.isNone then
    let n : Int := Decimal.value whole
    some (← word? (if negative then -n else n), rest)
  else some (← float? negative whole fraction (exponent.getD 0), rest)

/-- The word of a NaN. -/
def nan : Binary64 := ⟨0x7FF8000000000000⟩

/-- A number. -/
def number? (cs : List Char) : Option (Value × List Char) :=
  match cs with
  | '0' :: 'x' :: rest => based? 16 Ascii.isHexDigit rest
  | '0' :: 'o' :: rest => based? 8 (fun c => '0' ≤ c && c ≤ '7') rest
  | '0' :: 'b' :: rest => based? 2 (fun c => c == '0' || c == '1') rest
  | cs =>
    let (negative, cs) := sign cs
    match cs with
    | 'i' :: 'n' :: 'f' :: rest => some (.float (Binary64.infinity negative), rest)
    | 'n' :: 'a' :: 'n' :: rest => some (.float nan, rest)
    | cs => decimal? negative cs

end NearbyBeacons.Toml
