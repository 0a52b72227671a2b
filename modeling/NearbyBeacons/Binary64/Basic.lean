/-!
# Double precision numbers

An IEEE 754 double is its 64-bit word. `datum` says what a word stands for and
`ofRatio` is the word nearest to a quotient of whole numbers, ties going to the
even significand. Everything is exact arithmetic on whole numbers; the one
operation taken from outside is `powerOfTen`.
-/

namespace NearbyBeacons

/-- A double, by its word. -/
structure Binary64 where
  word : UInt64
  deriving DecidableEq, Repr

namespace Binary64

/-- What a word stands for. -/
inductive Datum where
  /-- `significand · 2 ^ exponent`, negated when `negative`; zero has a sign too. -/
  | finite (negative : Bool) (significand : Nat) (exponent : Int)
  | infinite (negative : Bool)
  | nan
  deriving DecidableEq, Repr

/-- The weight of the lowest exponent bit, `2 ^ 52`, and the least significand of a normal
double. -/
def exponentUnit : Nat := 4503599627370496

/-- The weight of the sign bit, `2 ^ 63`. -/
def signUnit : Nat := 9223372036854775808

/-- The eleven exponent bits. -/
def field (x : Binary64) : Nat := x.word.toNat / exponentUnit % 2048

/-- The fifty-two fraction bits. -/
def fraction (x : Binary64) : Nat := x.word.toNat % exponentUnit

/-- The sign bit. -/
def negative (x : Binary64) : Bool := x.word.toNat / signUnit % 2 == 1

/-- The number, infinity or NaN that a word stands for. -/
def datum (x : Binary64) : Datum :=
  if x.field = 2047 then (if x.fraction = 0 then .infinite x.negative else .nan)
  else if x.field = 0 then .finite x.negative x.fraction (-1074)
  else .finite x.negative (exponentUnit + x.fraction) (x.field - 1075)

/-- Neither an infinity nor a NaN. -/
def isFinite (x : Binary64) : Bool := x.field != 2047

/-- A zero of either sign. -/
def isZero (x : Binary64) : Bool := x.field == 0 && x.fraction == 0

/-! ### Rounding to nearest -/

/-- The whole number nearest to `n / d`, the even one of two that are equally near. -/
def roundDiv (n d : Nat) : Nat :=
  let q := n / d
  let r := n % d
  if d < 2 * r ∨ (2 * r = d ∧ q % 2 = 1) then q + 1 else q

/-- The rational `n · 2 ^ k / d` as a numerator and a denominator. -/
def scaled (n d : Nat) (k : Int) : Nat × Nat :=
  if 0 ≤ k then (n * Nat.pow 2 k.toNat, d) else (n, d * Nat.pow 2 (-k).toNat)

/-- The greatest `e` with `2 ^ e ≤ n / d`, for positive `n` and `d`. -/
def log2Ratio (n d : Nat) : Int :=
  -- off by at most one, since each logarithm is rounded down
  let e : Int := (n.log2 : Int) - d.log2
  let (a, b) := scaled n d (-e)
  if b ≤ a then e else e - 1

/-- The word of a magnitude, with the sign bit. -/
def withSign (negative : Bool) (magnitude : Nat) : Binary64 :=
  ⟨(magnitude + if negative then signUnit else 0).toUInt64⟩

/-- The infinity of the given sign. -/
def infinity (negative : Bool) : Binary64 := withSign negative (2047 * exponentUnit)

/-- The word nearest to `n / d`, for positive `d`. A significand that rounds up to
`2 ^ 53` carries into the exponent bits, and past the largest finite double the
result is an infinity. -/
def ofRatio (negative : Bool) (n d : Nat) : Binary64 :=
  if n = 0 then withSign negative 0
  else
    -- the exponent of the last place, which stays put among the subnormal doubles
    let unit : Int := max (log2Ratio n d - 52) (-1074)
    let (a, b) := scaled n d (-unit)
    let magnitude := (unit + 1074).toNat * exponentUnit + roundDiv a b
    if 2047 * exponentUnit ≤ magnitude then infinity negative else withSign negative magnitude

/-- The word nearest to a whole number divided by a positive one. -/
def ofIntRatio (n : Int) (d : Nat) : Binary64 := ofRatio (decide (n < 0)) n.natAbs d

/-- The word nearest to `m · 10 ^ e`. Exponents far outside the range of doubles are
answered by the number of digits alone. -/
def ofDecimal (negative : Bool) (m : Nat) (e : Int) : Binary64 :=
  let places : Int := (Nat.toDigits 10 m).length + e
  if m = 0 ∨ places < -400 then withSign negative 0
  else if 400 < places then infinity negative
  else if 0 ≤ e then ofRatio negative (m * Nat.pow 10 e.toNat) 1
  else ofRatio negative m (Nat.pow 10 (-e).toNat)

/-- A finite magnitude as a numerator and a denominator. -/
def ratio (significand : Nat) (exponent : Int) : Nat × Nat := scaled significand 1 exponent

/-! ### Scaling by powers of ten -/

/-- The magnitude of a finite double as a numerator and a denominator; zero for an infinity
and a NaN. -/
def magnitude (x : Binary64) : Nat × Nat :=
  match x.datum with
  | .finite _ m e => ratio m e
  | _ => (0, 1)

/-- The double nearest to the product of `x` and the double nearest to `10 ^ n`. -/
def timesPowerOfTen (x : Binary64) (n : Nat) : Binary64 :=
  let (a, b) := x.magnitude
  let (c, d) := (ofDecimal false 1 n).magnitude
  ofRatio x.negative (a * c) (b * d)

/-- The double nearest to the quotient of `x` and the double nearest to `10 ^ n`. -/
def overPowerOfTen (x : Binary64) (n : Nat) : Binary64 :=
  let (a, b) := x.magnitude
  let (c, d) := (ofDecimal false 1 n).magnitude
  ofRatio x.negative (a * d) (b * c)

/-! ### Rounding to whole numbers -/

/-- The whole number nearest to a magnitude, a half going away from zero. -/
def roundAway (significand : Nat) (exponent : Int) : Nat :=
  let (a, b) := ratio significand exponent
  (2 * a + b) / (2 * b)

/-! ### Powers of ten -/

/-- Ten to the power of `x`, as the platform's mathematical library computes it. -/
def powerOfTen (x : Binary64) : Binary64 :=
  ⟨(Float.pow 10.0 (Float.ofBits x.word)).toBits⟩

end NearbyBeacons.Binary64
