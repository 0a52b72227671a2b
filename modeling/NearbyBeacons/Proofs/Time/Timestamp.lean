import Mathlib.Data.List.Basic
import NearbyBeacons.Proofs.Decimal
import NearbyBeacons.Proofs.Text.Blank
import NearbyBeacons.Proofs.Text.Run
import NearbyBeacons.Proofs.Time.Calendar
import NearbyBeacons.Time.Timestamp
/-!
# Timestamps read back

The timestamp of an instant names that instant (`instant?_ofInstant`), in every year and in leap
seconds as well. Each part is read up to the mark that follows it.
-/

namespace NearbyBeacons

theorem Instant.of?_self (t : Instant) : Instant.of? t.second t.nano = some t := by
  rw [Instant.of?, dif_pos ⟨t.second_ge, t.second_le, t.nano_lt, t.leap⟩]

namespace Timestamp

/-! ### Parts -/

/-- A number of as many digits as may be read. -/
theorem number?_padded {width n : Nat} (hwidth : 0 < width) (h : n < 10 ^ width)
    (rest : List Char) : number? width (Decimal.padded width n ++ rest) = some (n, rest) := by
  have hdigits : ∀ c ∈ Decimal.padded width n, c.isDigit = true :=
    fun _ => Decimal.isDigit_of_mem_padded
  have hlength := Decimal.length_padded hwidth h
  have htake : takeDigits width (Decimal.padded width n ++ rest) =
      (Decimal.padded width n, rest) := by
    have hrun : ((Decimal.padded width n ++ rest).take width).takeWhile Char.isDigit =
        Decimal.padded width n := by
      rw [List.take_left' hlength, List.takeWhile_eq_self_iff]
      exact hdigits
    rw [takeDigits, hrun, List.drop_left]
  rw [number?, Text.trimStart_digits (Decimal.padded_ne_nil _ _) hdigits, htake]
  split
  · next hnil => exact absurd (Prod.mk.inj hnil).1 (Decimal.padded_ne_nil _ _)
  · next heq =>
    cases heq
    rw [Decimal.value_padded]

theorem mark?_cons {c : Char} (h : Text.isBlank c = false) (rest : List Char) :
    mark? c (c :: rest) = some rest := by
  rw [mark?, Text.trimStart_cons h]
  exact if_pos rfl

/-- A year is read up to the mark behind it. -/
theorem year?_yearText (year : Int) (rest : List Char) :
    year? (yearText year ++ '-' :: rest) = some (year, '-' :: rest) := by
  have hdigits : ∀ n, ∀ c ∈ Decimal.padded 4 n, c.isDigit = true :=
    fun _ _ => Decimal.isDigit_of_mem_padded
  have hmark : ∀ c ∈ ('-' :: rest).head?, c.isDigit = false :=
    Text.forall_mem_head?_cons (by decide) _
  have htake := fun n => Text.takeWhile_run (hdigits n) hmark
  have hdrop := fun n => Text.dropWhile_run (hdigits n) hmark
  have hsign : ∀ {c : Char}, c.isDigit = false → ∀ n cs,
      Decimal.padded 4 n ++ '-' :: rest ≠ c :: cs :=
    fun hc n => Text.run_ne_cons (Decimal.padded_ne_nil 4 n) (hdigits n) hc
  rw [yearText]
  split
  · next hyear =>
    have hnumber : number? 4 (Decimal.padded 4 year.toNat ++ '-' :: rest) =
        some (year.toNat, '-' :: rest) := number?_padded (by decide) (by omega) _
    simp only [year?, Text.trimStart_digits (Decimal.padded_ne_nil _ _) (hdigits _)]
    split
    · next heq => exact absurd heq (hsign (by decide) _ _)
    · next heq => exact absurd heq (hsign (by decide) _ _)
    · rw [hnumber, Option.map_some, Int.toNat_of_nonneg hyear.1]
  · next hyear =>
    obtain ⟨c, cs, hcons⟩ := List.exists_cons_of_ne_nil (Decimal.padded_ne_nil 4 year.natAbs)
    have hvalue : Decimal.value (c :: cs) = year.natAbs := by rw [← hcons, Decimal.value_padded]
    -- behind a sign all digits belong to the year
    have htake := htake year.natAbs
    have hdrop := hdrop year.natAbs
    rw [hcons] at htake hdrop ⊢
    rw [List.cons_append]
    split
    · next hneg =>
      have habs : -(year.natAbs : Int) = year := by omega
      rw [year?, Text.trimStart_cons (by decide)]
      simp only [htake, hdrop, hvalue, Option.map_some, habs]
    · next hneg =>
      have habs : (year.natAbs : Int) = year := by omega
      rw [year?, Text.trimStart_cons (by decide)]
      simp only [htake, hdrop, hvalue, Option.map_some, habs]

/-- A fraction of fewer than nine digits stands for one with zeros behind it. -/
theorem fraction?_padded {width n : Nat} (hwidth : 0 < width) (hle : width ≤ 9)
    (h : n < 10 ^ width) (rest : List Char) :
    fraction? ('.' :: Decimal.padded width n ++ 'Z' :: rest) =
      some (10 ^ (9 - width) * n, 'Z' :: rest) := by
  have hdigits : ∀ c ∈ Decimal.padded width n, c.isDigit = true :=
    fun _ => Decimal.isDigit_of_mem_padded
  have hmark : ∀ c ∈ ('Z' :: rest).head?, c.isDigit = false :=
    Text.forall_mem_head?_cons (by decide) _
  have hvalue : Decimal.value ((Decimal.padded width n ++ List.replicate 9 '0').take 9) =
      10 ^ (9 - width) * n := by
    have hlength := Decimal.length_padded hwidth h
    rw [List.take_append, List.take_of_length_le (by omega), List.take_replicate, hlength,
      Nat.min_eq_left (by omega), Decimal.value_append_zeros, Decimal.value_padded]
  rw [List.cons_append, fraction?, Text.takeWhile_run hdigits hmark,
    Text.dropWhile_run hdigits hmark]
  split
  · next hnil => exact absurd hnil (Decimal.padded_ne_nil _ _)
  · rw [hvalue]

theorem fraction?_fractionText {nano : Nat} (h : nano < 1000000000) (rest : List Char) :
    fraction? (fractionText nano ++ 'Z' :: rest) = some (nano, 'Z' :: rest) := by
  rw [fractionText]
  split
  · next hzero =>
    rw [hzero]
    rfl
  · split
    · have hpower : 10 ^ (9 - 3) * (nano / 1000000) = nano := by omega
      rw [fraction?_padded (by decide) (by decide) (by omega), hpower]
    · split
      · have hpower : 10 ^ (9 - 6) * (nano / 1000) = nano := by omega
        rw [fraction?_padded (by decide) (by decide) (by omega), hpower]
      · rw [fraction?_padded (by decide) (by decide) (by omega), Nat.sub_self, Nat.pow_zero,
          Nat.one_mul]

/-! ### The whole -/

/-- The years of instants. -/
theorem isNearYear_of_instant (t : Instant) :
    isNearYear (Calendar.ofDayNumber (t.second / 86400)).year = true := by
  obtain ⟨hfrom, hto⟩ := Calendar.year_ofDayNumber (t.second / 86400)
  set year := (Calendar.ofDayNumber (t.second / 86400)).year
  have hlow := t.second_ge
  have hhigh := t.second_le
  simp only [minSecond, maxSecond, Calendar.epoch] at hfrom hto hlow hhigh
  simp only [isNearYear, Bool.and_eq_true, decide_eq_true_eq]
  constructor
  · by_contra hyear
    have hle := Calendar.daysBeforeYear_le (show year + 1 ≤ -262143 by omega)
    have hfirst : Calendar.daysBeforeYear (-262143) = -95745764 := by decide
    omega
  · by_contra hyear
    have hle := Calendar.daysBeforeYear_le (show 262143 ≤ year by omega)
    have hnext : Calendar.daysBeforeYear 262143 = 95745765 := by decide
    omega

/-- The date, the time and the fraction of an instant make it again. -/
theorem assemble?_instant (t : Instant) {time extra : Nat} (htime : time = (t.second % 86400).toNat)
    (hextra : extra = t.nano / 1000000000) :
    assemble? (Calendar.ofDayNumber (t.second / 86400)) (time / 3600) (time / 60 % 60)
      (time % 60 + extra) (t.nano % 1000000000) 0 = some t := by
  have hnano := t.nano_lt
  have hleap := t.leap
  have hday : time < 86400 := by omega
  -- a leap second follows the last second of its minute
  have hsecond : extra = 0 ∨ extra = 1 ∧ time % 60 = 59 := by omega
  have hrefused : (!isNearYear (Calendar.ofDayNumber (t.second / 86400)).year ||
      !(Calendar.ofDayNumber (t.second / 86400)).isValid || decide (24 ≤ time / 3600) ||
      decide (60 ≤ time / 60 % 60) || decide (61 ≤ time % 60 + extra) ||
      decide (86400 ≤ (0 : Int).natAbs)) = false := by
    rw [isNearYear_of_instant, Calendar.isValid_ofDayNumber]
    simp only [Bool.not_true, Bool.false_or, Bool.or_eq_false_iff, decide_eq_false_iff_not]
    refine ⟨⟨⟨?_, ?_⟩, ?_⟩, by decide⟩
    all_goals omega
  rw [assemble?, hrefused, if_neg Bool.false_ne_true, Calendar.dayNumber_ofDayNumber]
  rcases hsecond with hzero | ⟨hone, hlast⟩
  · have hnoleap : (time % 60 + extra == 60) = false := by
      rw [beq_eq_false_iff_ne]
      omega
    have hseconds : 86400 * (t.second / 86400) +
        ((3600 * (time / 3600) + 60 * (time / 60 % 60) + (time % 60 + extra) : Nat) : Int) - 0 =
          t.second := by
      omega
    have hnanos : t.nano % 1000000000 + 0 = t.nano := by omega
    simp only [hnoleap, Bool.false_eq_true, if_false, hseconds, hnanos]
    exact t.of?_self
  · have hleap : (time % 60 + extra == 60) = true := by
      rw [beq_iff_eq]
      omega
    have hseconds : 86400 * (t.second / 86400) +
        ((3600 * (time / 3600) + 60 * (time / 60 % 60) + 59 : Nat) : Int) - 0 = t.second := by
      omega
    have hnanos : t.nano % 1000000000 + 1000000000 = t.nano := by omega
    simp only [hleap, if_true, hseconds, hnanos]
    exact t.of?_self

/-- The timestamp of an instant names it. -/
theorem instant?_ofInstant (t : Instant) : instant? (ofInstant t) = some t := by
  obtain ⟨time, htime⟩ : ∃ time, time = (t.second % 86400).toNat := ⟨_, rfl⟩
  obtain ⟨extra, hextra⟩ : ∃ extra, extra = t.nano / 1000000000 := ⟨_, rfl⟩
  obtain ⟨date, hdate⟩ : ∃ date, date = Calendar.ofDayNumber (t.second / 86400) := ⟨_, rfl⟩
  have hassemble := assemble?_instant t htime hextra
  have hvalid := Calendar.isValid_ofDayNumber (t.second / 86400)
  rw [← hdate] at hassemble hvalid
  obtain ⟨hmonth, hday⟩ := Calendar.lt_of_isValid hvalid
  have hnano := t.nano_lt
  have htwo : ∀ {n : Nat} (rest : List Char), n < 100 →
      number? 2 (Decimal.padded 2 n ++ rest) = some (n, rest) :=
    fun rest hn => number?_padded (by decide) hn rest
  have htext : ofInstant t = yearText date.year ++ '-' :: (Decimal.padded 2 date.month ++
      '-' :: (Decimal.padded 2 date.day ++ 'T' :: (Decimal.padded 2 (time / 3600) ++
        ':' :: (Decimal.padded 2 (time / 60 % 60) ++ ':' :: (Decimal.padded 2 (time % 60 + extra) ++
          (fractionText (t.nano % 1000000000) ++ ['Z'])))))) := by
    simp only [ofInstant, ← htime, ← hextra, ← hdate, List.append_assoc, List.cons_append]
  have hend : offset? (Text.trimStart ['Z']) = some (0, []) := by
    rw [Text.trimStart_cons (by decide)]
    rfl
  rw [htext, instant?]
  simp only [Option.bind_eq_bind, year?_yearText, Option.bind_some,
    mark?_cons (c := '-') (by decide), mark?_cons (c := ':') (by decide), separator?,
    htwo _ (show date.month < 100 by omega), htwo _ (show date.day < 100 by omega),
    htwo _ (show time / 3600 < 100 by omega), htwo _ (show time / 60 % 60 < 100 by omega),
    htwo _ (show time % 60 + extra < 100 by omega),
    fraction?_fractionText (show t.nano % 1000000000 < 1000000000 by omega), hend]
  exact hassemble

end Timestamp

end NearbyBeacons
