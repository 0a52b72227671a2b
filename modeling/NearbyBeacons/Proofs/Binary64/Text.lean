import NearbyBeacons.Binary64.Text
import NearbyBeacons.Proofs.Binary64.Order
import NearbyBeacons.Proofs.Decimal
import NearbyBeacons.Proofs.Text.Run
/-!
# What the text of a double shows

A text with two decimals can be read as a number: a whole number of hundredths, nearest to that of
the double (`exists_rational?_twoDecimals`). So the numbers that two texts show are ordered as the
doubles are (`rational?_twoDecimals_mono`).
-/

namespace NearbyBeacons

/-! ### Decimal numbers -/

namespace Decimal

/-- The number that a text without a sign shows: digits, and digits after a point or not. -/
def unsignedRational? (cs : List Char) : Option ℚ :=
  match cs.dropWhile (· != '.') with
  | [] => (nat? cs).map fun n => (n : ℚ)
  | _ :: places => do
    let whole ← nat? (cs.takeWhile (· != '.'))
    let part ← nat? places
    return whole + part / 10 ^ places.length

/-- The number that a text shows, with a minus sign in front or without. -/
def rational? : List Char → Option ℚ
  | '-' :: rest => (unsignedRational? rest).map fun q => -q
  | cs => unsignedRational? cs

theorem nat?_padded (width n : Nat) : nat? (padded width n) = some n := by
  have hrun : (!(padded width n).isEmpty && (padded width n).all Char.isDigit) = true := by
    rw [Bool.and_eq_true, Bool.not_eq_true', List.isEmpty_eq_false_iff, List.all_eq_true]
    exact ⟨padded_ne_nil width n, fun c hc => isDigit_of_mem_padded hc⟩
  rw [nat?, if_pos hrun, value_padded]

/-- Digits around a point show a whole number of the last place. -/
theorem unsignedRational?_places {width n m : Nat} (hwidth : 0 < width) (h : m < 10 ^ width) :
    unsignedRational? (digits n ++ '.' :: padded width m) =
      some (n + m / 10 ^ width : ℚ) := by
  have hrun : ∀ c ∈ digits n, (c != '.') = true := fun c hc =>
    bne_iff_ne.mpr (Text.ne_of_kind (isDigit_of_mem_digits hc) (by decide))
  have hpoint : ∀ c ∈ ('.' :: padded width m).head?, (c != '.') = false :=
    Text.forall_mem_head?_cons (p := (· != '.')) (by decide) _
  rw [unsignedRational?, Text.dropWhile_run hrun hpoint, Text.takeWhile_run hrun hpoint]
  simp only [nat?_digits, nat?_padded, length_padded hwidth h]
  rfl

theorem rational?_of_digits (n : Nat) (cs : List Char) :
    rational? (digits n ++ cs) = unsignedRational? (digits n ++ cs) := by
  have hsign : ∀ rest, digits n ++ cs ≠ '-' :: rest :=
    Text.run_ne_cons (digits_ne_nil n) (fun c hc => isDigit_of_mem_digits hc) (by decide)
  unfold rational?
  split
  · next rest heq => exact absurd heq (hsign rest)
  · rfl

end Decimal

namespace Binary64

/-! ### Two decimals -/

/-- Hundredths as a text show what they are. -/
theorem rational?_signed_hundredthsText (negative : Bool) (h : Nat) :
    Decimal.rational? (signed negative (hundredthsText h)) =
      some (if negative then -(h / 100) else h / 100 : ℚ) := by
  have hsplit : ((h / 100 : ℕ) + (h % 100 : ℕ) / 10 ^ 2 : ℚ) = h / 100 := by
    have hdiv : ((h / 100 : ℕ) * 100 + (h % 100 : ℕ) : ℚ) = h := by
      exact_mod_cast Nat.div_add_mod' h 100
    linarith
  have hplaces : h % 100 < 10 ^ 2 := Nat.mod_lt h (by decide)
  have hread := Decimal.unsignedRational?_places (n := h / 100) Nat.two_pos hplaces
  rw [hsplit] at hread
  cases negative with
  | false => exact (Decimal.rational?_of_digits _ _).trans hread
  | true => exact congrArg (Option.map fun q => -q) hread

theorem isNearest_hundredths (m : Nat) (e : Int) :
    IsNearest (100 * (m * 2 ^ e)) (hundredths m e) := by
  have hvalue : (100 * (m * 2 ^ e) : ℚ) =
      ((100 * (scaled m 1 e).1 : ℕ) : ℚ) / (scaled m 1 e).2 := by
    rw [Nat.cast_mul, mul_div_assoc, scaled_eq, Nat.cast_one, div_one, Nat.cast_ofNat]
  rw [hvalue]
  exact isNearest_roundDiv _ (scaled_snd_pos Nat.one_pos e)

/-- The text of a finite double shows the hundredths nearest to it. -/
theorem exists_rational?_twoDecimals {x : Binary64} (h : x.isFinite = true) :
    ∃ k : Nat, IsNearest (100 * (weight x.bits * least)) k ∧
      Decimal.rational? x.twoDecimals = some (if x.negative then -(k / 100) else k / 100 : ℚ) := by
  obtain ⟨m, e, hdatum, hnumber⟩ := exists_datum_eq h
  refine ⟨hundredths m e, ?_, ?_⟩
  · rw [← hnumber]
    exact isNearest_hundredths m e
  · rw [twoDecimals, hdatum]
    exact rational?_signed_hundredthsText _ _

/-! ### Numbers that are not negative -/

instance : Zero Binary64 := ⟨⟨0⟩⟩

theorem isFinite_zero : (0 : Binary64).isFinite = true := by decide

/-- The word of a double that is not negative has no sign, but for that of zero. -/
theorem key_eq_bits {x : Binary64} (h : x.isFinite = true) (h0 : 0 ≤ x) : x.key = x.bits := by
  have hnonneg : (0 : Binary64).key ≤ x.key := (le_iff_key_le isFinite_zero h).mp h0
  have hzero : (0 : Binary64).key = 0 := by decide
  rw [hzero] at hnonneg
  unfold key at hnonneg ⊢
  split at hnonneg
  · rw [if_pos ‹_›]
    omega
  · rw [if_neg ‹_›]

/-- Zero shows no other number when it is negative. -/
theorem rational?_twoDecimals_of_nonneg {x : Binary64} (h : x.isFinite = true) (h0 : 0 ≤ x) :
    ∃ k : Nat, IsNearest (100 * (weight x.bits * least)) k ∧
      Decimal.rational? x.twoDecimals = some (k / 100 : ℚ) := by
  obtain ⟨k, hk, hread⟩ := exists_rational?_twoDecimals h
  refine ⟨k, hk, ?_⟩
  rw [hread]
  split
  · next hnegative =>
    -- the one double with a sign that is not below zero is zero itself
    have hbits : x.bits = 0 := by
      have := key_eq_bits h h0
      rw [key, if_pos hnegative] at this
      omega
    have hzero : k = 0 := by
      have hnearest : IsNearest ((0 : ℕ) : ℚ) k := by simpa [hbits, weight] using hk
      exact Nat.le_zero.mp (hnearest.mono (isNearest_natCast 0) le_rfl)
    rw [hzero]
    simp
  · rfl

/-- **A larger double shows no smaller number.** -/
theorem rational?_twoDecimals_mono {x y : Binary64} (hx : x.isFinite = true)
    (hy : y.isFinite = true) (h0 : 0 ≤ x) (h0' : 0 ≤ y) (hle : x ≤ y) :
    ∃ p q : ℚ, Decimal.rational? x.twoDecimals = some p ∧
      Decimal.rational? y.twoDecimals = some q ∧ p ≤ q := by
  obtain ⟨k, hk, hread⟩ := rational?_twoDecimals_of_nonneg hx h0
  obtain ⟨k', hk', hread'⟩ := rational?_twoDecimals_of_nonneg hy h0'
  refine ⟨_, _, hread, hread', ?_⟩
  have hbits : x.bits ≤ y.bits := by
    have hkey := (le_iff_key_le hx hy).mp hle
    rwa [key_eq_bits hx h0, key_eq_bits hy h0', Int.ofNat_le] at hkey
  have hweight : (weight x.bits : ℚ) * least ≤ weight y.bits * least :=
    mul_le_mul_of_nonneg_right (by exact_mod_cast weight_strictMono.monotone hbits) least_pos.le
  have hk_le : (k : ℚ) ≤ k' := by exact_mod_cast hk.mono hk' (by linarith)
  linarith

end Binary64

end NearbyBeacons
