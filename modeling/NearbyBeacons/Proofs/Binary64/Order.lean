import Mathlib.Data.Int.ConditionallyCompleteOrder
import Mathlib.Data.Rat.Cast.Order
import Mathlib.Order.Monotone.Basic
import Mathlib.Order.WithBot
import NearbyBeacons.Proofs.Binary64.Rounding
/-!
# The order of doubles

Doubles are ordered as the numbers that they are, the infinities at the ends and NaN nowhere.
Finite doubles are ordered as their words, read as whole numbers with a sign (`le_iff_key_le`),
since each word stands for the next larger number than the word before it. So quotients keep their
order when they are rounded to doubles (`ofIntRatio_le_ofIntRatio`).
-/

namespace NearbyBeacons.Binary64

/-! ### Numbers -/

/-- The number that a datum is, among the rationals and the infinities. NaN is none. -/
def Datum.number? : Datum → Option (WithBot (WithTop ℚ))
  | .finite negative m e =>
    let q : ℚ := m * 2 ^ e
    some (((if negative then -q else q : ℚ) : WithTop ℚ) : WithBot (WithTop ℚ))
  | .infinite negative => some (if negative then ⊥ else ⊤)
  | .nan => none

/-- Doubles are compared as numbers, and NaN with nothing. -/
instance : LE Binary64 where
  le x y := ∃ a b, x.datum.number? = some a ∧ y.datum.number? = some b ∧ a ≤ b

/-! ### Words as numbers -/

/-- The bits of a double but the sign. -/
def bits (x : Binary64) : Nat := x.word.toNat % signUnit

/-- The bits of a double as a whole number with its sign. -/
def key (x : Binary64) : Int := if x.negative then -x.bits else x.bits

theorem bits_lt (x : Binary64) : x.bits < signUnit := Nat.mod_lt _ (by decide)

theorem field_eq (x : Binary64) : x.field = x.bits / exponentUnit := by
  unfold field bits exponentUnit signUnit
  omega

theorem fraction_eq (x : Binary64) : x.fraction = x.bits % exponentUnit := by
  unfold fraction bits exponentUnit signUnit
  omega

/-- The bits of infinities and NaNs are those above all bits of finite doubles. -/
theorem isFinite_iff {x : Binary64} : x.isFinite = true ↔ x.bits < 2047 * exponentUnit := by
  have hlt := x.bits_lt
  rw [isFinite, bne_iff_ne, field_eq]
  unfold exponentUnit signUnit at *
  omega

/-- A sign leaves the other bits as they are. -/
theorem bits_withSign {m : Nat} (h : m < signUnit) (negative : Bool) :
    (withSign negative m).bits = m := by
  unfold bits withSign signUnit at *
  cases negative <;> simp <;> omega

theorem negative_withSign {m : Nat} (h : m < signUnit) (negative : Bool) :
    (withSign negative m).negative = negative := by
  unfold Binary64.negative withSign signUnit at *
  cases negative <;> simp <;> omega

/-- The number that bits stand for, counted in the least positive double. -/
def weight (m : Nat) : Nat :=
  (m - (m / exponentUnit - 1) * exponentUnit) * 2 ^ (m / exponentUnit - 1)

/-- The next bits stand for a larger number, also where the significand starts anew. -/
theorem weight_lt_weight_succ (m : Nat) : weight m < weight (m + 1) := by
  have hm := Nat.div_add_mod m exponentUnit
  have hr : m % exponentUnit < exponentUnit := Nat.mod_lt m (by decide)
  have hsucc : (m + 1) / exponentUnit = m / exponentUnit ∨
      (m + 1) / exponentUnit = m / exponentUnit + 1 ∧ m % exponentUnit + 1 = exponentUnit := by
    unfold exponentUnit at *
    omega
  unfold weight
  generalize m / exponentUnit = q at *
  rcases hsucc with hsame | ⟨hnext, hlast⟩
  · rw [hsame]
    refine Nat.mul_lt_mul_of_pos_right ?_ (Nat.two_pow_pos _)
    unfold exponentUnit at *
    omega
  · rw [hnext, Nat.add_sub_cancel]
    cases q with
    | zero => unfold exponentUnit at *; omega
    | succ p =>
      rw [Nat.add_sub_cancel, Nat.pow_succ, Nat.mul_comm (2 ^ p), ← Nat.mul_assoc]
      refine Nat.mul_lt_mul_of_pos_right ?_ (Nat.two_pow_pos _)
      unfold exponentUnit at *
      omega

/-- Larger bits stand for larger numbers. -/
theorem weight_strictMono : StrictMono weight := strictMono_nat_of_lt_succ weight_lt_weight_succ

/-- The least positive double. -/
def least : ℚ := 2 ^ (-1074 : Int)

theorem least_pos : 0 < least := by
  unfold least
  positivity

/-- The number that bits with a sign stand for. -/
def numberOf : Int → ℚ
  | .ofNat m => weight m * least
  | .negSucc m => -(weight (m + 1) * least)

theorem numberOf_natCast (m : Nat) : numberOf m = weight m * least := rfl

theorem numberOf_neg (m : Nat) : numberOf (-m) = -(weight m * least) := by
  cases m with
  | zero => simp [numberOf, weight]
  | succ m => rfl

/-- Below zero larger bits stand for smaller numbers, and a sign turns both round. -/
theorem numberOf_strictMono : StrictMono numberOf := by
  have hmul : ∀ {m n : Nat}, m < n → weight m * least < weight n * least := by
    intro m n h
    have hlt : (weight m : ℚ) < weight n := by exact_mod_cast weight_strictMono h
    exact mul_lt_mul_of_pos_right hlt least_pos
  have hnonneg : ∀ m : Nat, 0 ≤ weight m * least := fun m =>
    mul_nonneg (Nat.cast_nonneg _) least_pos.le
  intro k k' h
  cases k with
  | ofNat m =>
    cases k' with
    | ofNat m' => exact hmul (Int.ofNat_lt.mp h)
    | negSucc m' => simp only [Int.ofNat_eq_natCast] at h; omega
  | negSucc m =>
    cases k' with
    | ofNat m' =>
      have hpos : 0 < weight (m + 1) * least := (hnonneg m).trans_lt (hmul (Nat.lt_succ_self m))
      exact (neg_lt_zero.mpr hpos).trans_le (hnonneg m')
    | negSucc m' => exact neg_lt_neg (hmul (by omega))

/-- A finite double is the number that its bits stand for. -/
theorem exists_datum_eq {x : Binary64} (h : x.isFinite = true) :
    ∃ m e, x.datum = .finite x.negative m e ∧ (m : ℚ) * 2 ^ e = weight x.bits * least := by
  have hfield : x.field ≠ 2047 := bne_iff_ne.mp h
  unfold datum weight
  rw [if_neg hfield, ← field_eq]
  split
  · next hzero =>
    -- among the subnormal doubles the bits are the significand
    refine ⟨_, _, rfl, ?_⟩
    have hbits : x.fraction = x.bits := by
      rw [fraction_eq, Nat.mod_eq_of_lt]
      rw [field_eq] at hzero
      exact (Nat.div_eq_zero_iff_lt (by decide)).mp hzero
    simp only [hzero, hbits, least, Nat.zero_sub, Nat.zero_mul, Nat.sub_zero, pow_zero,
      Nat.mul_one]
  · next hpos =>
    -- the lowest exponent bit is where the hidden bit of the significand has to be
    refine ⟨_, _, rfl, ?_⟩
    have hbits : x.bits - (x.field - 1) * exponentUnit = exponentUnit + x.fraction := by
      rw [field_eq, fraction_eq] at *
      unfold exponentUnit at *
      omega
    have hpow : (2 : ℚ) ^ ((x.field : Int) - 1075) = 2 ^ (x.field - 1) * least := by
      rw [least, ← zpow_natCast, ← zpow_add₀ two_ne_zero]
      congr 1
      omega
    simp only [hbits, hpow, Nat.cast_mul, Nat.cast_pow, Nat.cast_ofNat, mul_assoc]

/-- A finite double is the number that its word stands for. -/
theorem number?_of_isFinite {x : Binary64} (h : x.isFinite = true) :
    x.datum.number? = some ((numberOf x.key : WithTop ℚ) : WithBot (WithTop ℚ)) := by
  obtain ⟨m, e, hdatum, hnumber⟩ := exists_datum_eq h
  simp only [hdatum, Datum.number?, hnumber, key]
  split
  · rw [numberOf_neg]
  · rw [numberOf_natCast]

/-- A double that is not finite is an infinity or not a number. -/
theorem number?_of_not_isFinite {x : Binary64} (h : x.isFinite = false) :
    x.datum.number? ∈ [none, some ⊤, some ⊥] := by
  have hfield : x.field = 2047 := bne_eq_false_iff_eq.mp h
  unfold datum
  rw [if_pos hfield]
  split
  · cases x.negative <;> simp [Datum.number?]
  · simp [Datum.number?]

/-- **Finite doubles are ordered as their words.** -/
theorem le_iff_key_le {x y : Binary64} (hx : x.isFinite = true) (hy : y.isFinite = true) :
    x ≤ y ↔ x.key ≤ y.key := by
  have hle : x ≤ y ↔ numberOf x.key ≤ numberOf y.key := by
    show (∃ a b, _ ∧ _ ∧ _) ↔ _
    rw [number?_of_isFinite hx, number?_of_isFinite hy]
    simp
  rw [hle, numberOf_strictMono.le_iff_le]

theorem le_self_of_isFinite {x : Binary64} (h : x.isFinite = true) : x ≤ x :=
  (le_iff_key_le h h).mpr le_rfl

theorem le_infinity {x : Binary64} (h : x.isFinite = true) : x ≤ infinity false :=
  ⟨_, ⊤, number?_of_isFinite h, by decide, le_top⟩

/-- Between finite doubles there are only finite ones. -/
theorem isFinite_of_le_of_le {x y z : Binary64} (hx : x.isFinite = true) (hxy : x ≤ y)
    (hyz : y ≤ z) (hz : z.isFinite = true) : y.isFinite = true := by
  by_contra h
  obtain ⟨a, b, ha, hb, hab⟩ := hxy
  obtain ⟨b', c, hb', hc, hbc⟩ := hyz
  rw [number?_of_isFinite hx] at ha
  rw [number?_of_isFinite hz] at hc
  have hy := number?_of_not_isFinite (Bool.not_eq_true _ ▸ h)
  cases ha
  cases hc
  rw [hb] at hb' hy
  cases hb'
  simp at hy
  rcases hy with rfl | rfl
  · simp at hbc
  · simp at hab

/-! ### Quotients -/

section

variable {n n' : Int} {d d' : Nat}

/-- A quotient does not overflow if its nearest magnitude is that of a finite double. -/
theorem ofRatio_of_lt {negative : Bool} {m : Nat}
    (h : nearestMagnitude m d < 2047 * exponentUnit) :
    ofRatio negative m d = withSign negative (nearestMagnitude m d) := by
  rw [ofRatio_eq, if_neg (Nat.not_le.mpr h)]

theorem lt_signUnit_of_lt {m : Nat} (h : m < 2047 * exponentUnit) : m < signUnit :=
  h.trans (by decide)

theorem isFinite_ofIntRatio (h : nearestMagnitude n.natAbs d < 2047 * exponentUnit) :
    (ofIntRatio n d).isFinite = true := by
  rw [isFinite_iff, ofIntRatio, ofRatio_of_lt h, bits_withSign (lt_signUnit_of_lt h)]
  exact h

/-- A rounded quotient has its nearest magnitude for bits, with the sign of the numerator. -/
theorem key_ofIntRatio (h : nearestMagnitude n.natAbs d < 2047 * exponentUnit) :
    (ofIntRatio n d).key =
      if n < 0 then -(nearestMagnitude n.natAbs d : Int) else nearestMagnitude n.natAbs d := by
  rw [key, ofIntRatio, ofRatio_of_lt h, bits_withSign (lt_signUnit_of_lt h),
    negative_withSign (lt_signUnit_of_lt h)]
  simp only [decide_eq_true_eq]

/-- **Quotients keep their order when they are rounded.** -/
theorem ofIntRatio_le_ofIntRatio (hd : 0 < d) (hd' : 0 < d') (hle : (n : ℚ) / d ≤ n' / d')
    (h : nearestMagnitude n.natAbs d < 2047 * exponentUnit)
    (h' : nearestMagnitude n'.natAbs d' < 2047 * exponentUnit) :
    ofIntRatio n d ≤ ofIntRatio n' d' := by
  have hdq : (0 : ℚ) < d := by exact_mod_cast hd
  have hdq' : (0 : ℚ) < d' := by exact_mod_cast hd'
  rw [le_iff_key_le (isFinite_ofIntRatio h) (isFinite_ofIntRatio h'), key_ofIntRatio h,
    key_ofIntRatio h']
  split
  · next hn =>
    split
    · next hn' =>
      have hmono : nearestMagnitude n'.natAbs d' ≤ nearestMagnitude n.natAbs d := by
        apply nearestMagnitude_mono hd' hd
        rw [Nat.cast_natAbs, Nat.cast_natAbs, abs_of_neg hn, abs_of_neg hn', Int.cast_neg,
          Int.cast_neg, neg_div, neg_div]
        exact neg_le_neg hle
      omega
    · omega
  · next hn =>
    have hn' : ¬n' < 0 := by
      intro hn'
      have hnonneg : (0 : ℚ) ≤ n / d := div_nonneg (by exact_mod_cast not_lt.mp hn) hdq.le
      have hneg : (n' : ℚ) / d' < 0 := div_neg_of_neg_of_pos (by exact_mod_cast hn') hdq'
      exact absurd (hnonneg.trans hle) (not_le.mpr hneg)
    rw [if_neg hn']
    have hmono : nearestMagnitude n.natAbs d ≤ nearestMagnitude n'.natAbs d' := by
      apply nearestMagnitude_mono hd hd'
      rw [Nat.cast_natAbs, Nat.cast_natAbs, abs_of_nonneg (not_lt.mp hn),
        abs_of_nonneg (not_lt.mp hn')]
      exact hle
    exact_mod_cast hmono

end

end NearbyBeacons.Binary64
