import Mathlib.Algebra.Ring.Nat
import Mathlib.Data.List.Basic
import Mathlib.Order.Monotone.Basic
import NearbyBeacons.Time.Calendar
/-!
# Days and dates

Every day has a date that the calendar has (`isValid_ofDayNumber`), and the date leads back to the
day (`dayNumber_ofDayNumber`).
-/

namespace NearbyBeacons.Calendar

/-! ### Years -/

/-- The days of a year. -/
def daysInYear (year : Int) : Nat := if isLeapYear year then 366 else 365

theorem daysBeforeYear_succ (year : Int) :
    daysBeforeYear (year + 1) = daysBeforeYear year + daysInYear year := by
  simp only [daysBeforeYear, daysInYear, isLeapYear, Bool.and_eq_true, Bool.or_eq_true,
    beq_iff_eq, bne_iff_ne]
  split <;> omega

theorem daysBeforeYear_le {year year' : Int} (h : year ≤ year') :
    daysBeforeYear year ≤ daysBeforeYear year' := by
  have hmono : Monotone daysBeforeYear := by
    apply monotone_int_of_le_succ
    intro year
    rw [daysBeforeYear_succ]
    omega
  exact hmono h

/-- A day lies in its year. -/
theorem daysBeforeYear_yearOfDay (days : Int) :
    daysBeforeYear (yearOfDay days) ≤ days ∧
      days < daysBeforeYear (yearOfDay days) + daysInYear (yearOfDay days) := by
  obtain ⟨guess, hguess⟩ : ∃ guess, guess = 400 * days / 146097 := ⟨_, rfl⟩
  have hyear : yearOfDay days = if daysBeforeYear (guess + 1) ≤ days then guess + 1
      else if daysBeforeYear guess ≤ days then guess else guess - 1 := by
    rw [hguess]
    rfl
  -- the mean length of a year is never off by more than one year
  have hlow : daysBeforeYear (guess - 1) ≤ days := by
    rw [daysBeforeYear]
    omega
  have hhigh : days < daysBeforeYear (guess + 1 + 1) := by
    rw [daysBeforeYear]
    omega
  rw [← daysBeforeYear_succ, hyear]
  split
  · next h => exact ⟨h, hhigh⟩
  · next h =>
    split
    · next h' => exact ⟨h', Int.not_le.mp h⟩
    · next h' =>
      rw [Int.sub_add_cancel]
      exact ⟨hlow, Int.not_le.mp h'⟩

/-! ### Months -/

theorem sum_monthLengths (year : Int) :
    (monthLengths (isLeapYear year)).sum = daysInYear year := by
  rw [daysInYear]
  cases isLeapYear year <;> rfl

/-- The days of the months before the one that is found are taken off. -/
theorem splitMonths_eq (month : Nat) {days : Nat} {lengths : List Nat} (h : days < lengths.sum) :
    ∃ k, k < lengths.length ∧ (lengths.take k).sum ≤ days ∧
      days < (lengths.take k).sum + lengths.getD k 0 ∧
      splitMonths month days lengths = (month + k, days - (lengths.take k).sum + 1) := by
  induction lengths generalizing month days with
  | nil => simp at h
  | cons length rest ih =>
    rw [List.sum_cons] at h
    by_cases hfirst : days < length
    · exact ⟨0, by simp, by simp, by simpa using hfirst, by simp [splitMonths, hfirst]⟩
    · have hrest : days - length < rest.sum := by omega
      obtain ⟨k, hk, hlow, hhigh, hsplit⟩ := ih (month + 1) hrest
      refine ⟨k + 1, by simpa using hk, ?_, ?_, ?_⟩
      · rw [List.take_succ_cons, List.sum_cons]
        omega
      · rw [List.take_succ_cons, List.sum_cons, List.getD_cons_succ]
        omega
      · rw [splitMonths, if_neg hfirst, hsplit, List.take_succ_cons, List.sum_cons]
        congr 1 <;> omega

/-- A date is the year of its day, the month and the day that are left in it. -/
theorem exists_ofDayNumber (n : Int) : ∃ year : Int, ∃ k within : Nat,
    n + epoch = daysBeforeYear year + within ∧ k < 12 ∧
      ((monthLengths (isLeapYear year)).take k).sum ≤ within ∧
      within < ((monthLengths (isLeapYear year)).take k).sum +
        (monthLengths (isLeapYear year)).getD k 0 ∧
      ofDayNumber n =
        ⟨year, k + 1, within - ((monthLengths (isLeapYear year)).take k).sum + 1⟩ := by
  obtain ⟨hlow, hhigh⟩ := daysBeforeYear_yearOfDay (n + epoch)
  set year := yearOfDay (n + epoch) with hyear
  have hwithin : (n + epoch - daysBeforeYear year).toNat <
      (monthLengths (isLeapYear year)).sum := by
    rw [sum_monthLengths]
    omega
  obtain ⟨k, hk, hfrom, hto, hsplit⟩ := splitMonths_eq 1 hwithin
  refine ⟨year, k, (n + epoch - daysBeforeYear year).toNat, by omega, hk, hfrom, hto, ?_⟩
  rw [ofDayNumber, ← hyear, hsplit, Nat.add_comm 1 k]

/-! ### Dates -/

/-- The calendar has the date of every day. -/
theorem isValid_ofDayNumber (n : Int) : (ofDayNumber n).isValid = true := by
  obtain ⟨year, k, within, -, hk, hfrom, hto, hdate⟩ := exists_ofDayNumber n
  have hmonth : daysInMonth year (k + 1) = (monthLengths (isLeapYear year)).getD k 0 := by
    rw [daysInMonth, if_neg (Nat.succ_ne_zero k), Nat.add_sub_cancel]
  simp only [hdate, Date.isValid, hmonth, Bool.and_eq_true, decide_eq_true_eq]
  omega

/-- The date of a day leads back to it. -/
theorem dayNumber_ofDayNumber (n : Int) : dayNumber (ofDayNumber n) = n := by
  obtain ⟨year, k, within, hn, -, hfrom, -, hdate⟩ := exists_ofDayNumber n
  have hmonth : daysBeforeMonth (isLeapYear year) (k + 1) =
      ((monthLengths (isLeapYear year)).take k).sum := by
    rw [daysBeforeMonth, Nat.add_sub_cancel, List.sum_eq_foldl]
  simp only [hdate, dayNumber, hmonth]
  omega

/-- Two digits are enough for a month and a day. -/
theorem lt_of_isValid {d : Date} (h : d.isValid = true) : d.month < 13 ∧ d.day < 32 := by
  simp only [Date.isValid, Bool.and_eq_true, decide_eq_true_eq] at h
  have hlengths : ∀ leap, ∀ k < 12, (monthLengths leap).getD k 0 ≤ 31 := by decide
  have hmonth : daysInMonth d.year d.month ≤ 31 := by
    rw [daysInMonth, if_neg (by omega)]
    exact hlengths _ _ (by omega)
  omega

/-- The days before a year bound the year. -/
theorem year_ofDayNumber (n : Int) : daysBeforeYear (ofDayNumber n).year ≤ n + epoch ∧
    n + epoch < daysBeforeYear ((ofDayNumber n).year + 1) := by
  have hyear : (ofDayNumber n).year = yearOfDay (n + epoch) := rfl
  rw [hyear, daysBeforeYear_succ]
  exact daysBeforeYear_yearOfDay (n + epoch)

end NearbyBeacons.Calendar
