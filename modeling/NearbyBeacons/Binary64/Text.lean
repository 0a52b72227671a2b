import NearbyBeacons.Binary64.Basic
import NearbyBeacons.Decimal
/-!
# Decimal texts of doubles

Two texts of a double: with two decimals, the exact value rounded to nearest and
ties to even; and the shortest, the fewest digits that round back to the same
word. Both are positional, never with an exponent.
-/

namespace NearbyBeacons.Binary64

/-- The text of infinities and NaN, which is the same in every format. -/
def infiniteText (negative : Bool) : List Char :=
  if negative then ['-', 'i', 'n', 'f'] else ['i', 'n', 'f']

/-- The text of NaN, which never shows a sign. -/
def nanText : List Char := ['N', 'a', 'N']

/-- `cs` behind a minus sign when `negative`. -/
def signed (negative : Bool) (cs : List Char) : List Char :=
  if negative then '-' :: cs else cs

/-! ### Two decimals -/

/-- The number of hundredths nearest to a magnitude, ties going to the even one. -/
def hundredths (significand : Nat) (exponent : Int) : Nat :=
  let (a, b) := ratio significand exponent
  roundDiv (100 * a) b

/-- Hundredths as a text with two decimals. -/
def hundredthsText (h : Nat) : List Char :=
  Decimal.digits (h / 100) ++ '.' :: Decimal.padded 2 (h % 100)

/-- The text of `x` with two decimals. -/
def twoDecimals (x : Binary64) : List Char :=
  match x.datum with
  | .finite negative m e => signed negative (hundredthsText (hundredths m e))
  | .infinite negative => infiniteText negative
  | .nan => nanText

/-! ### Shortest text -/

/-- The rationals that round to one word: `num / den` is its value, and the others
lie within `below / den` under it and `above / den` over it. The two ends belong to
the interval when `closed`. -/
structure Interval where
  num : Nat
  den : Nat
  below : Nat
  above : Nat
  closed : Bool

/-- The interval of a finite word other than zero. Under a power of two the
neighbouring words are half as far apart. -/
def Interval.of (significand : Nat) (exponent : Int) : Interval :=
  let (a, b) := ratio (4 * significand) exponent
  let (u, _) := ratio 1 exponent
  { num := a
    den := 4 * b
    below := if significand = exponentUnit ∧ exponent ≠ -1074 then u else 2 * u
    above := 2 * u
    closed := significand % 2 == 0 }

/-- Whether `n / d` lies in the interval. -/
def Interval.contains (i : Interval) (n d : Nat) : Bool :=
  let value := n * i.den
  let low := (i.num - i.below) * d
  let high := (i.num + i.above) * d
  if i.closed then low ≤ value && value ≤ high else low < value && value < high

/-- The digits of a decimal and the power of ten they are multiplied by. -/
structure Scientific where
  digits : Nat
  exponent : Int

/-- `s` as a numerator and a denominator. -/
def Scientific.ratio (s : Scientific) : Nat × Nat :=
  if 0 ≤ s.exponent then (s.digits * Nat.pow 10 s.exponent.toNat, 1)
  else (s.digits, Nat.pow 10 (-s.exponent).toNat)

/-- Whether `s` is a decimal that rounds to the interval's word. -/
def Scientific.hits (s : Scientific) (i : Interval) : Bool :=
  let (n, d) := s.ratio
  i.contains n d

/-- The neighbour of the interval's value among the multiples of `10 ^ exponent` that
rounds back to it: the nearer of the two when both do. -/
def Interval.onGrid? (i : Interval) (exponent : Int) : Option Scientific :=
  let (n, d) := if 0 ≤ exponent then (i.num, i.den * Nat.pow 10 exponent.toNat)
    else (i.num * Nat.pow 10 (-exponent).toNat, i.den)
  let low : Scientific := ⟨n / d, exponent⟩
  let high : Scientific := ⟨n / d + 1, exponent⟩
  let near := if 2 * (n % d) < d then low else high
  let far := if 2 * (n % d) < d then high else low
  if near.hits i then some near else if far.hits i then some far else none

/-- The first hit on the grids `10 ^ exponent`, `10 ^ (exponent - 1)` and so on. -/
def Interval.coarsest (i : Interval) (exponent : Int) : Nat → Scientific
  | 0 => ⟨0, 0⟩
  | n + 1 =>
    match i.onGrid? exponent with
    | some s => if s.digits = 0 then i.coarsest (exponent - 1) n else s
    | none => i.coarsest (exponent - 1) n

/-- The least power of ten above a positive rational, by its number of digits. -/
def magnitudeOf (n d : Nat) : Int :=
  if d ≤ n then (Decimal.digits (n / d)).length
  else 1 - (Decimal.digits (d / n)).length

/-- The fewest digits that round to a finite word other than zero. Seventeen are
always enough, and the search starts two grids too coarse. -/
def shortestDecimal (significand : Nat) (exponent : Int) : Scientific :=
  let i := Interval.of significand exponent
  i.coarsest (magnitudeOf i.num i.den + 1) 22

/-- `s` with all its digits and without an exponent. -/
def Scientific.positional (s : Scientific) : List Char :=
  if 0 ≤ s.exponent then Decimal.digits (s.digits * Nat.pow 10 s.exponent.toNat)
  else
    let unit := Nat.pow 10 (-s.exponent).toNat
    Decimal.digits (s.digits / unit) ++
      '.' :: Decimal.padded (-s.exponent).toNat (s.digits % unit)

/-- The shortest text of `x`. Whole numbers show no decimal point. -/
def shortest (x : Binary64) : List Char :=
  match x.datum with
  | .finite negative m e =>
    signed negative (if m = 0 then ['0'] else (shortestDecimal m e).positional)
  | .infinite negative => infiniteText negative
  | .nan => nanText

end NearbyBeacons.Binary64
