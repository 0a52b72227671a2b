import NearbyBeacons.Json.Token
/-!
# The values of numerals

A numeral of digits alone is a whole number as long as it fits a word. Every other numeral
is a double, which is reached in two roundings: the leading digits, as many as fit a word,
are rounded first, and then their multiple of a power of ten. Short numerals come out
exactly rounded; long ones may be off by a unit in the last place.
-/

namespace NearbyBeacons.Json

namespace Numeral

/-! ### Whole numbers -/

/-- The whole number that a numeral stands for. A point, an exponent, a minus sign
before zero and magnitudes beyond a word make it a number that is not whole. -/
def int? (n : Numeral) : Option Int :=
  let m := Decimal.value n.whole
  if !n.fraction.isEmpty || n.exponent.isSome then none
  else if n.negative then (if m = 0 ∨ Decimal.signedSize < m then none else some (-(m : Int)))
  else if Decimal.wordSize ≤ m then none
  else some m

/-! ### Doubles -/

/-- `m` with the digits of a run appended until they no longer fit a word, and how many of
them do. -/
def appendDigits (m : Nat) : List Char → Nat × Nat
  | [] => (m, 0)
  | c :: rest =>
    let next := 10 * m + (c.toNat - '0'.toNat)
    if next < Decimal.wordSize then
      let (m, kept) := appendDigits next rest
      (m, kept + 1)
    else (m, 0)

/-- The leading digits that fit a word, as a number, and the power of ten that it is
multiplied by. -/
def scientific (n : Numeral) : Nat × Int :=
  let (m, kept) := appendDigits 0 n.whole
  let (m, places) := appendDigits m n.fraction
  (m, (n.whole.length : Int) - kept - places + n.exponent.getD 0)

/-- The greatest power of ten that is a double. -/
def maxPower : Nat := 308

/-- `x` times the given power of ten, or through it when the power is negative. There is
no double near a product that is too large. Quotients may take two steps, after which
even the largest leading digits are down to zero. -/
def scale? (x : Binary64) (power : Int) : Option Binary64 :=
  let n := power.natAbs
  if 0 ≤ power then
    let product := x.timesPowerOfTen n
    if n ≤ maxPower ∧ product.isFinite = true then some product else none
  else if n ≤ maxPower then some (x.overPowerOfTen n)
  else if n ≤ 2 * maxPower then
    some ((x.overPowerOfTen maxPower).overPowerOfTen (n - maxPower))
  else some (Binary64.withSign x.negative 0)

/-- The double that a numeral stands for, unless it is too large. -/
def real? (n : Numeral) : Option Binary64 :=
  let (m, power) := n.scientific
  let x := Binary64.ofRatio n.negative m 1
  if m = 0 then some x else scale? x power

/-- Whether the numeral is so large that it stands for no number. -/
def isTooLarge (n : Numeral) : Bool := n.int?.isNone && n.real?.isNone

end Numeral

end NearbyBeacons.Json
