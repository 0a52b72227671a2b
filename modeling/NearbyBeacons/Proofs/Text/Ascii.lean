import NearbyBeacons.Text.Ascii
/-!
# Letter case and hexadecimal digits

Lower case forgets what upper case forgets: two texts that agree apart from the case of their
ASCII letters are those that agree in upper case (`sameLetters_iff`). Whether a character is a
hexadecimal digit can be read from its upper-case form (`isHexDigit_iff`), and each value below
sixteen has one digit in upper and one in lower case (`hexValue?_eq_some_iff`).
-/

namespace NearbyBeacons.Ascii

/-! ### Characters -/

/-- Upper case changes small letters only. -/
theorem toUpper_of_not_small {c : Char} (h : ¬('a'.val ≤ c.val ∧ c.val ≤ 'z'.val)) :
    c.toUpper = c := dif_neg h

/-- Lower case changes capitals only. -/
theorem toLower_of_not_capital {c : Char} (h : ¬('A'.val ≤ c.val ∧ c.val ≤ 'Z'.val)) :
    c.toLower = c := dif_neg h

/-- Lower case forgets what upper case has done: at the small letters, one by one. -/
theorem toLower_toUpper (c : Char) : c.toUpper.toLower = c.toLower := by
  by_cases h : 'a'.val ≤ c.val ∧ c.val ≤ 'z'.val
  · have hsmall : ∀ n ≤ 0x7A, 0x61 ≤ n →
        (Char.ofNat n).toUpper.toLower = (Char.ofNat n).toLower := by decide
    have hc := hsmall c.toNat h.2 h.1
    rwa [Char.ofNat_toNat] at hc
  · rw [toUpper_of_not_small h]

/-- Upper case forgets what lower case has done: at the capitals, one by one. -/
theorem toUpper_toLower (c : Char) : c.toLower.toUpper = c.toUpper := by
  by_cases h : 'A'.val ≤ c.val ∧ c.val ≤ 'Z'.val
  · have hcapital : ∀ n ≤ 0x5A, 0x41 ≤ n →
        (Char.ofNat n).toLower.toUpper = (Char.ofNat n).toUpper := by decide
    have hc := hcapital c.toNat h.2 h.1
    rwa [Char.ofNat_toNat] at hc
  · rw [toLower_of_not_capital h]

/-! ### Letter case -/

@[simp] theorem toList_upper (s : String) : (upper s).toList = s.toList.map Char.toUpper :=
  String.toList_ofList

@[simp] theorem toList_lower (s : String) : (lower s).toList = s.toList.map Char.toLower :=
  String.toList_ofList

theorem lower_upper (s : String) : lower (upper s) = lower s := by
  rw [← String.toList_inj]
  simp only [toList_lower, toList_upper, List.map_map, Function.comp_def, toLower_toUpper]

theorem upper_lower (s : String) : upper (lower s) = upper s := by
  rw [← String.toList_inj]
  simp only [toList_lower, toList_upper, List.map_map, Function.comp_def, toUpper_toLower]

theorem lower_eq_iff_upper_eq {s t : String} : lower s = lower t ↔ upper s = upper t := by
  constructor
  · intro h
    rw [← upper_lower s, h, upper_lower]
  · intro h
    rw [← lower_upper s, h, lower_upper]

/-- Texts that agree apart from letter case are those that agree in upper case. -/
theorem sameLetters_iff {s t : String} : sameLetters s t = true ↔ upper s = upper t := by
  rw [← lower_eq_iff_upper_eq, ← String.toList_inj, toList_lower, toList_lower]
  exact beq_iff_eq

/-! ### Hexadecimal digits -/

/-- The hexadecimal digits with letters in upper case. -/
def upperHexDigits : List Char :=
  ['0', '1', '2', '3', '4', '5', '6', '7', '8', '9', 'A', 'B', 'C', 'D', 'E', 'F']

/-- The digits are three runs of characters. -/
theorem isHexDigit_iff_mem_ranges {c : Char} : isHexDigit c = true ↔
    '0' ≤ c ∧ c ≤ '9' ∨ 'A' ≤ c ∧ c ≤ 'F' ∨ 'a' ≤ c ∧ c ≤ 'f' := by
  unfold isHexDigit hexValue?
  split
  · next h => simp [h]
  · next hdigit =>
    split
    · next h => simp [h]
    · next hlower =>
      split
      · next h => simp [h]
      · next hupper => simp [hdigit, hlower, hupper]

theorem toUpper_of_mem_upperHexDigits {c : Char} (h : c ∈ upperHexDigits) : c.toUpper = c := by
  have hdigits : ∀ d ∈ upperHexDigits, d.toUpper = d := by simp [upperHexDigits]
  exact hdigits c h

theorem toNat_lt_of_isHexDigit {c : Char} (h : isHexDigit c = true) : c.toNat < 128 := by
  unfold isHexDigit hexValue? at h
  split at h
  · next hc => exact Nat.lt_of_le_of_lt (show c.toNat ≤ '9'.toNat from hc.2) (by decide)
  · split at h
    · next hc => exact Nat.lt_of_le_of_lt (show c.toNat ≤ 'f'.toNat from hc.2) (by decide)
    · split at h
      · next hc => exact Nat.lt_of_le_of_lt (show c.toNat ≤ 'F'.toNat from hc.2) (by decide)
      · cases h

theorem toNat_lt_of_toUpper_mem {c : Char} (h : c.toUpper ∈ upperHexDigits) :
    c.toNat < 128 := by
  by_cases hsmall : 'a'.val ≤ c.val ∧ c.val ≤ 'z'.val
  · exact Nat.lt_of_le_of_lt (show c.toNat ≤ 'z'.toNat from hsmall.2) (by decide)
  · rw [toUpper_of_not_small hsmall] at h
    have hdigits : ∀ d ∈ upperHexDigits, d.toNat < 128 := by simp [upperHexDigits]
    exact hdigits c h

/-- The digits are the characters whose upper case is an upper-case digit. -/
theorem isHexDigit_iff {c : Char} : isHexDigit c = true ↔ c.toUpper ∈ upperHexDigits := by
  have hascii : ∀ n < 128,
      isHexDigit (Char.ofNat n) = true ↔ (Char.ofNat n).toUpper ∈ upperHexDigits := by
    decide +kernel
  constructor
  · intro h
    have hc := (hascii c.toNat (toNat_lt_of_isHexDigit h)).mp
    rw [Char.ofNat_toNat] at hc
    exact hc h
  · intro h
    have hc := (hascii c.toNat (toNat_lt_of_toUpper_mem h)).mpr
    rw [Char.ofNat_toNat] at hc
    exact hc h

/-- A value below sixteen has two digits, one in upper and one in lower case. -/
theorem hexValue?_eq_some_iff {c : Char} {n : Nat} :
    hexValue? c = some n ↔ n < 16 ∧ (c = hexDigit n ∨ c = hexDigitLower n) := by
  constructor
  · intro h
    have hascii : ∀ k < 128, ∀ m ∈ hexValue? (Char.ofNat k),
        m < 16 ∧ (Char.ofNat k = hexDigit m ∨ Char.ofNat k = hexDigitLower m) := by
      decide +kernel
    have hlt : c.toNat < 128 := toNat_lt_of_isHexDigit (by rw [isHexDigit, h]; rfl)
    have hc := hascii c.toNat hlt n
    rw [Char.ofNat_toNat] at hc
    exact hc h
  · rintro ⟨hn, hc⟩
    have hupper : ∀ m < 16, hexValue? (hexDigit m) = some m := by decide
    have hlower : ∀ m < 16, hexValue? (hexDigitLower m) = some m := by decide
    rcases hc with rfl | rfl
    · exact hupper n hn
    · exact hlower n hn

/-- In upper case, a digit is told by its value. -/
theorem toUpper_of_hexValue? {c : Char} {n : Nat} (h : hexValue? c = some n) :
    c.toUpper = hexDigit n := by
  obtain ⟨hn, hc⟩ := hexValue?_eq_some_iff.mp h
  have hupper : ∀ m < 16, (hexDigit m).toUpper = hexDigit m := by decide
  have hlower : ∀ m < 16, (hexDigitLower m).toUpper = hexDigit m := by decide
  rcases hc with rfl | rfl
  · exact hupper n hn
  · exact hlower n hn

end NearbyBeacons.Ascii
