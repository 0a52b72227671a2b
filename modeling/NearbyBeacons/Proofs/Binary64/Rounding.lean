import Mathlib.Algebra.Order.Field.Power
import Mathlib.Data.Int.Log
import Mathlib.Data.Rat.Floor
import Mathlib.Tactic.Linarith
import Mathlib.Tactic.Positivity
import NearbyBeacons.Binary64.Basic
/-!
# Rounding keeps order

A quotient is rounded twice on its way to a text: to a double, and to hundredths. Both round to
the nearest whole number of units, ties to even, and the whole numbers nearest to two rationals
are ordered as these are (`IsNearest.mono`). For doubles the unit depends on the quotient, and a
larger unit takes over where the significand of a smaller one ends, so that the word of a quotient
does not get less when the quotient grows (`nearestMagnitude_mono`).
-/

namespace NearbyBeacons.Binary64

/-! ### Nearest whole numbers -/

/-- `k` is nearest to `q` among the whole numbers, and even where another one is as near. -/
structure IsNearest (q : ℚ) (k : Nat) : Prop where
  le_add_half : q ≤ k + 1 / 2
  sub_half_le : k - 1 / 2 ≤ q
  even_of_tie : q = k + 1 / 2 ∨ q = k - 1 / 2 → k % 2 = 0

theorem isNearest_natCast (k : Nat) : IsNearest k k where
  le_add_half := by linarith
  sub_half_le := by linarith
  even_of_tie h := by rcases h with h | h <;> linarith

/-- A whole number is not less than a nearest one to less. -/
theorem IsNearest.mono {q q' : ℚ} {k k' : Nat} (h : IsNearest q k) (h' : IsNearest q' k')
    (hle : q ≤ q') : k ≤ k' := by
  by_contra hlt
  have hnext : (k' : ℚ) + 1 ≤ k := by exact_mod_cast Nat.lt_of_not_ge hlt
  have hlow := h.sub_half_le
  have hhigh := h'.le_add_half
  -- both are ties between neighbours, of which only one is even
  have hk : k % 2 = 0 := h.even_of_tie (.inr (by linarith))
  have hk' : k' % 2 = 0 := h'.even_of_tie (.inl (by linarith))
  have heq : k = k' + 1 := by
    have : (k : ℚ) = k' + 1 := by linarith
    exact_mod_cast this
  omega

theorem isNearest_roundDiv (n : Nat) {d : Nat} (hd : 0 < d) : IsNearest (n / d) (roundDiv n d) := by
  have hdq : (0 : ℚ) < d := by exact_mod_cast hd
  have hr : (n % d : ℕ) < (d : ℚ) := by exact_mod_cast Nat.mod_lt n hd
  have hr0 : (0 : ℚ) ≤ (n % d : ℕ) := Nat.cast_nonneg _
  -- the quotient is its whole part and a fraction, which is compared with a half
  have hq : (n : ℚ) / d = (n / d : ℕ) + (n % d : ℕ) / d := by
    rw [eq_comm, ← mul_left_inj' hdq.ne', add_mul, div_mul_cancel₀ _ hdq.ne',
      div_mul_cancel₀ _ hdq.ne']
    exact_mod_cast Nat.div_add_mod' n d
  have hrem : (n % d : ℕ) / (d : ℚ) < 1 := (div_lt_one₀ hdq).mpr hr
  have hrem0 : 0 ≤ (n % d : ℕ) / (d : ℚ) := div_nonneg hr0 hdq.le
  have hhalf : (n % d : ℕ) / (d : ℚ) ≤ 1 / 2 ↔ 2 * (n % d) ≤ d := by
    rw [div_le_iff₀ hdq, ← Nat.cast_le (α := ℚ)]
    push_cast
    constructor <;> intro h <;> linarith
  have htie : (n % d : ℕ) / (d : ℚ) = 1 / 2 ↔ 2 * (n % d) = d := by
    rw [div_eq_iff hdq.ne', ← Nat.cast_inj (R := ℚ)]
    push_cast
    constructor <;> intro h <;> linarith
  unfold roundDiv
  dsimp only
  rw [hq]
  generalize (n % d : ℕ) / (d : ℚ) = r at hrem hrem0 hhalf htie
  split
  · next hup =>
    have hge : 1 / 2 ≤ r := by
      by_contra hlt
      have := hhalf.mp (by linarith)
      have := mt htie.mpr (by intro h; linarith)
      omega
    refine ⟨by push_cast; linarith, by push_cast; linarith, ?_⟩
    rintro (h | h)
    · push_cast at h; linarith
    · have := htie.mp (by push_cast at h; linarith)
      omega
  · next hdown =>
    have hle : r ≤ 1 / 2 := hhalf.mpr (by omega)
    refine ⟨by linarith, by linarith, ?_⟩
    rintro (h | h)
    · have := htie.mp (by linarith)
      omega
    · linarith

/-! ### Quotients -/

theorem scaled_snd_pos {n d : Nat} (hd : 0 < d) (k : Int) : 0 < (scaled n d k).2 := by
  unfold scaled
  split
  · exact hd
  · exact Nat.mul_pos hd (Nat.pow_pos (by decide))

/-- A scaled quotient is the quotient times a power of two. -/
theorem scaled_eq (n d : Nat) (k : Int) :
    ((scaled n d k).1 : ℚ) / (scaled n d k).2 = n / d * 2 ^ k := by
  unfold scaled
  split
  · next h =>
    have hpow : ((Nat.pow 2 k.toNat : ℕ) : ℚ) = 2 ^ k := by
      rw [Nat.pow_eq, Nat.cast_pow, ← zpow_natCast, Int.toNat_of_nonneg h, Nat.cast_ofNat]
    rw [Nat.cast_mul, hpow, mul_div_right_comm]
  · next h =>
    have hpow : ((Nat.pow 2 (-k).toNat : ℕ) : ℚ) = (2 ^ k)⁻¹ := by
      rw [Nat.pow_eq, Nat.cast_pow, ← zpow_natCast, Int.toNat_of_nonneg (by omega),
        Nat.cast_ofNat, zpow_neg]
    rw [Nat.cast_mul, hpow, div_mul_eq_div_div, div_inv_eq_mul]

theorem two_zpow_le_iff {q : ℚ} (hq : 0 < q) {k : Int} : 2 ^ k ≤ q ↔ k ≤ Int.log 2 q := by
  rw [← Int.zpow_le_iff_le_log Nat.one_lt_two hq, Nat.cast_ofNat]

theorem lt_two_zpow_iff {q : ℚ} (hq : 0 < q) {k : Int} : q < 2 ^ k ↔ Int.log 2 q < k := by
  rw [← not_le, two_zpow_le_iff hq, not_le]

theorem log2Ratio_eq_log {n d : Nat} (hn : 0 < n) (hd : 0 < d) :
    log2Ratio n d = Int.log 2 ((n : ℚ) / d) := by
  have hdq : (0 : ℚ) < d := by exact_mod_cast hd
  have hq : (0 : ℚ) < n / d := div_pos (by exact_mod_cast hn) hdq
  have htwo : (2 : ℚ) ≠ 0 := two_ne_zero
  have hn1 : (2 : ℚ) ^ n.log2 ≤ n := by exact_mod_cast Nat.log2_self_le hn.ne'
  have hn2 : (n : ℚ) < 2 ^ (n.log2 + 1) := by exact_mod_cast Nat.lt_log2_self
  have hd1 : (2 : ℚ) ^ d.log2 ≤ d := by exact_mod_cast Nat.log2_self_le hd.ne'
  have hd2 : (d : ℚ) < 2 ^ (d.log2 + 1) := by exact_mod_cast Nat.lt_log2_self
  -- both logarithms are rounded down by less than one, so their difference is off by less than
  -- one to either side, and the comparison settles which whole number it is
  set e : Int := (n.log2 : Int) - d.log2 with he
  have hlow : e - 1 ≤ Int.log 2 ((n : ℚ) / d) := by
    rw [← two_zpow_le_iff hq, le_div_iff₀ hdq]
    calc (2 : ℚ) ^ (e - 1) * d ≤ 2 ^ (e - 1) * 2 ^ (d.log2 + 1) := by gcongr
      _ = 2 ^ n.log2 := by
        rw [← zpow_natCast, ← zpow_natCast, ← zpow_add₀ htwo]; congr 1; omega
      _ ≤ n := hn1
  have hhigh : Int.log 2 ((n : ℚ) / d) < e + 1 := by
    rw [← lt_two_zpow_iff hq, div_lt_iff₀ hdq]
    calc (n : ℚ) < 2 ^ (n.log2 + 1) := hn2
      _ = 2 ^ (e + 1) * 2 ^ d.log2 := by
        rw [← zpow_natCast, ← zpow_natCast, ← zpow_add₀ htwo]; congr 1; omega
      _ ≤ 2 ^ (e + 1) * d := by gcongr
  have hcompare : (scaled n d (-e)).2 ≤ (scaled n d (-e)).1 ↔ e ≤ Int.log 2 ((n : ℚ) / d) := by
    have hb : (0 : ℚ) < (scaled n d (-e)).2 := by exact_mod_cast scaled_snd_pos hd (-e)
    have hpow : (0 : ℚ) < 2 ^ e := by positivity
    rw [← two_zpow_le_iff hq, ← Nat.cast_le (α := ℚ), ← one_le_div hb, scaled_eq, zpow_neg,
      ← div_eq_mul_inv, one_le_div hpow]
  unfold log2Ratio
  dsimp only
  rw [← he]
  split
  · next h => have := hcompare.mp h; omega
  · next h => have := mt hcompare.mpr h; omega

/-! ### The word of a quotient -/

/-- The exponent of the last place of the double nearest to `q`, which stays put among the
subnormal doubles. -/
def unitOf (q : ℚ) : Int := max (Int.log 2 q - 52) (-1074)

/-- The word of the double nearest to `n / d`, without its sign and without an upper end. -/
def nearestMagnitude (n d : Nat) : Nat :=
  if n = 0 then 0
  else
    let unit : Int := max (log2Ratio n d - 52) (-1074)
    let (a, b) := scaled n d (-unit)
    (unit + 1074).toNat * exponentUnit + roundDiv a b

theorem ofRatio_eq (negative : Bool) (n d : Nat) :
    ofRatio negative n d =
      if 2047 * exponentUnit ≤ nearestMagnitude n d then infinity negative
      else withSign negative (nearestMagnitude n d) := by
  unfold ofRatio nearestMagnitude
  split
  · rfl
  · rfl

theorem le_unitOf (q : ℚ) : -1074 ≤ unitOf q := le_max_right _ _

theorem unitOf_mono {q q' : ℚ} (hq : 0 < q) (h : q ≤ q') : unitOf q ≤ unitOf q' :=
  max_le_max_right _ (Int.sub_le_sub_right (Int.log_mono_right hq h) 52)

/-- In units of its last place a significand has at most 53 binary digits. -/
theorem mul_zpow_unitOf_lt {q : ℚ} (hq : 0 < q) : q * 2 ^ (-unitOf q) < 2 * exponentUnit := by
  have hpow : (0 : ℚ) < 2 ^ unitOf q := by positivity
  have hlog : Int.log 2 q < unitOf q + 53 := by
    have := le_max_left (Int.log 2 q - 52) (-1074)
    rw [unitOf]
    omega
  rw [zpow_neg, ← div_eq_mul_inv, div_lt_iff₀ hpow]
  calc q < 2 ^ (unitOf q + 53) := (lt_two_zpow_iff hq).mpr hlog
    _ = 2 * exponentUnit * 2 ^ unitOf q := by
      rw [zpow_add₀ two_ne_zero, mul_comm]; norm_num [exponentUnit]

/-- It has all of them unless the unit is the least one. -/
theorem le_mul_zpow_unitOf {q : ℚ} (hq : 0 < q) (h : -1074 < unitOf q) :
    exponentUnit ≤ q * 2 ^ (-unitOf q) := by
  have hpow : (0 : ℚ) < 2 ^ unitOf q := by positivity
  have hlog : unitOf q + 52 ≤ Int.log 2 q := by
    rw [unitOf, lt_max_iff] at h
    rw [unitOf]
    omega
  rw [zpow_neg, ← div_eq_mul_inv, le_div_iff₀ hpow]
  calc (exponentUnit : ℚ) * 2 ^ unitOf q = 2 ^ (unitOf q + 52) := by
        rw [zpow_add₀ two_ne_zero, mul_comm]; norm_num [exponentUnit]
    _ ≤ q := (two_zpow_le_iff hq).mpr hlog

/-- The word counts the units below that of the quotient, each with its binade of significands,
and then the significand. -/
theorem exists_nearestMagnitude_eq {n d : Nat} (hn : 0 < n) (hd : 0 < d) :
    ∃ k, IsNearest (n / d * 2 ^ (-unitOf (n / d))) k ∧
      nearestMagnitude n d = (unitOf (n / d) + 1074).toNat * exponentUnit + k := by
  let s := scaled n d (-unitOf (n / d))
  refine ⟨roundDiv s.1 s.2, ?_, ?_⟩
  · rw [← scaled_eq]
    exact isNearest_roundDiv _ (scaled_snd_pos hd _)
  · rw [nearestMagnitude, if_neg hn.ne', log2Ratio_eq_log hn hd]
    rfl

/-- **The word of a quotient grows with it.** -/
theorem nearestMagnitude_mono {n d n' d' : Nat} (hd : 0 < d) (hd' : 0 < d')
    (h : (n : ℚ) / d ≤ n' / d') : nearestMagnitude n d ≤ nearestMagnitude n' d' := by
  rcases Nat.eq_zero_or_pos n with rfl | hn
  · exact Nat.zero_le _
  have hq : (0 : ℚ) < n / d := div_pos (by exact_mod_cast hn) (by exact_mod_cast hd)
  have hn' : 0 < n' := by
    rw [Nat.pos_iff_ne_zero]
    rintro rfl
    rw [Nat.cast_zero, zero_div] at h
    exact absurd h (not_le.mpr hq)
  obtain ⟨k, hk, heq⟩ := exists_nearestMagnitude_eq hn hd
  obtain ⟨k', hk', heq'⟩ := exists_nearestMagnitude_eq hn' hd'
  have hmono := unitOf_mono hq h
  have hleast := le_unitOf ((n : ℚ) / d)
  rw [heq, heq']
  rcases hmono.eq_or_lt with hunit | hunit
  · -- one unit: the significands are ordered
    rw [← hunit] at hk' ⊢
    have := hk.mono hk' (by gcongr)
    omega
  · -- a larger unit begins where the significands of the smaller one end
    have hlow : k ≤ 2 * exponentUnit := by
      have hlt := mul_zpow_unitOf_lt hq
      exact hk.mono (isNearest_natCast _) (by push_cast; exact hlt.le)
    have hhigh : exponentUnit ≤ k' :=
      (isNearest_natCast _).mono hk' (le_mul_zpow_unitOf (hq.trans_le h) (by omega))
    obtain ⟨step, hstep⟩ : ∃ step, (unitOf ((n' : ℚ) / d') + 1074).toNat =
        (unitOf ((n : ℚ) / d) + 1074).toNat + 1 + step := Nat.exists_eq_add_of_le (by omega)
    rw [hstep, Nat.add_mul, Nat.add_mul]
    omega

end NearbyBeacons.Binary64
