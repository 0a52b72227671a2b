import Mathlib.Algebra.Ring.Nat
import Mathlib.Data.List.Basic
import Mathlib.Data.List.Induction
import Mathlib.Data.Nat.Digits.Defs
import NearbyBeacons.Decimal
/-!
# Digits of decimal texts

A written number consists of ASCII digits and does not begin with a zero, unless it is zero.
What is read as a number is more: any run of digits, with a plus sign in front or without
(`word?_eq_some_iff`).
-/

namespace NearbyBeacons

/-- The digits are the characters 48 to 57. -/
theorem toNat_of_isDigit {c : Char} (h : c.isDigit = true) : 48 ≤ c.toNat ∧ c.toNat ≤ 57 := by
  simpa [Char.isDigit, UInt32.le_iff_toNat_le] using h

namespace Decimal

theorem isDigit_of_mem_digits {n : Nat} {c : Char} (h : c ∈ digits n) : c.isDigit = true :=
  List.all_eq_true.mp (all_isDigit_digits n) c h

theorem toList_natText (n : Nat) : (natText n).toList = digits n := String.toList_ofList

/-- No digit but zero is written as zero. -/
theorem digitChar_ne_zero {n : Nat} (h : n < 10) (hn : n ≠ 0) : n.digitChar ≠ '0' := by
  have hall : ∀ n < 10, n ≠ 0 → n.digitChar ≠ '0' := by decide
  exact hall n h hn

/-- A number other than zero is written without a leading zero. -/
theorem head?_digits_ne_zero {n : Nat} (h : n ≠ 0) : (digits n).head? ≠ some '0' := by
  induction n using Nat.strongRecOn with
  | _ n ih =>
    rw [digits_eq]
    split
    · next hlt =>
      rw [List.head?_cons, Ne, Option.some_inj]
      exact digitChar_ne_zero hlt h
    · rw [List.head?_append_of_ne_nil _ (digits_ne_nil _)]
      exact ih (n / 10) (by omega) (by omega)

theorem digits_zero : digits 0 = ['0'] := rfl

theorem length_digits_le_three {n : Nat} (h : n < 1000) : (digits n).length ≤ 3 :=
  (Nat.length_toDigits_le_iff (by decide) (by decide)).mpr h

/-! ### Padded numbers -/

theorem padded_eq (width n : Nat) :
    padded width n = List.replicate (width - (digits n).length) '0' ++ digits n := rfl

theorem isDigit_of_mem_padded {width n : Nat} {c : Char} (h : c ∈ padded width n) :
    c.isDigit = true := by
  rw [padded_eq, List.mem_append] at h
  rcases h with h | h
  · rw [(List.mem_replicate.mp h).2]
    decide
  · exact isDigit_of_mem_digits h

theorem padded_ne_nil (width n : Nat) : padded width n ≠ [] := by
  rw [padded_eq]
  exact List.append_ne_nil_of_right_ne_nil _ (digits_ne_nil n)

/-- Zeros in front do not change a number. -/
theorem value_padded (width n : Nat) : value (padded width n) = n := by
  rw [padded_eq, value, Nat.ofDigitChars_append, Nat.ofDigitChars_replicate_zero, Nat.mul_zero]
  exact value_digits n

/-- A number that fits the width is padded to just that width. -/
theorem length_padded {width n : Nat} (hwidth : 0 < width) (h : n < 10 ^ width) :
    (padded width n).length = width := by
  have hle : (digits n).length ≤ width := (Nat.length_toDigits_le_iff (by decide) hwidth).mpr h
  rw [padded_eq, List.length_append, List.length_replicate]
  omega

/-- Every zero at the end makes a number ten times as large. -/
theorem value_append_zeros (run : List Char) (count : Nat) :
    value (run ++ List.replicate count '0') = 10 ^ count * value run := by
  rw [value, Nat.ofDigitChars_append, Nat.ofDigitChars_replicate_zero]
  rfl

/-! ### Numerals -/

/-- The text of digits. -/
def digitText (ds : List (Fin 10)) : List Char := ds.map fun d : Fin 10 => Nat.digitChar d

/-- A text that writes a number: one or more digits, the most significant first, with a plus
sign in front or without. -/
def IsNumeral (text : List Char) (n : Nat) : Prop :=
  ∃ ds : List (Fin 10), ds ≠ [] ∧ n = Nat.ofDigits 10 (ds.map Fin.val).reverse ∧
    (text = digitText ds ∨ text = '+' :: digitText ds)

theorem exists_digitChar {c : Char} (h : c.isDigit = true) :
    ∃ d : Fin 10, c = Nat.digitChar d := by
  obtain ⟨hlow, hhigh⟩ := toNat_of_isDigit h
  have hdigit : ∀ d : Fin 10, Nat.digitChar d = Char.ofNat (48 + d) := by decide
  refine ⟨⟨c.toNat - 48, by omega⟩, ?_⟩
  rw [hdigit, Nat.add_sub_cancel' hlow, Char.ofNat_toNat]

/-- A run of digit characters is the text of digits. -/
theorem exists_digitText {cs : List Char} (h : ∀ c ∈ cs, c.isDigit = true) :
    ∃ ds, cs = digitText ds := by
  induction cs with
  | nil => exact ⟨[], rfl⟩
  | cons c cs ih =>
    obtain ⟨d, hd⟩ := exists_digitChar (h c List.mem_cons_self)
    obtain ⟨ds, hds⟩ := ih fun e he => h e (List.mem_cons_of_mem _ he)
    exact ⟨d :: ds, by rw [hd, hds]; rfl⟩

theorem isDigit_of_mem_digitText {ds : List (Fin 10)} {c : Char} (h : c ∈ digitText ds) :
    c.isDigit = true := by
  obtain ⟨d, -, rfl⟩ := List.mem_map.mp h
  exact isDigit_digitChar d.isLt

theorem digitText_eq_nil_iff {ds : List (Fin 10)} : digitText ds = [] ↔ ds = [] :=
  List.map_eq_nil_iff

/-- A run of digits is worth the number that they write in base ten. -/
theorem value_digitText (ds : List (Fin 10)) :
    value (digitText ds) = Nat.ofDigits 10 (ds.map Fin.val).reverse := by
  induction ds using List.reverseRecOn with
  | nil => rfl
  | append_singleton ds d ih =>
    have htext : digitText (ds ++ [d]) = digitText ds ++ [Nat.digitChar d] := List.map_append
    rw [value, htext, Nat.ofDigitChars_append,
      Nat.ofDigitChars_cons_digitChar_of_lt_ten d.isLt, Nat.ofDigitChars_nil, List.map_append,
      List.reverse_append, List.map_singleton, List.reverse_singleton, List.singleton_append,
      Nat.ofDigits_cons, ← ih, value, Nat.add_comm]

/-- A number is read from one or more digits, and from nothing else. -/
theorem nat?_eq_some_iff {cs : List Char} {n : Nat} :
    nat? cs = some n ↔ ∃ ds : List (Fin 10), ds ≠ [] ∧
      n = Nat.ofDigits 10 (ds.map Fin.val).reverse ∧ cs = digitText ds := by
  unfold nat?
  constructor
  · intro h
    split at h
    · next hrun =>
      rw [Bool.and_eq_true, Bool.not_eq_true', List.isEmpty_eq_false_iff, List.all_eq_true] at hrun
      obtain ⟨ds, rfl⟩ := exists_digitText hrun.2
      refine ⟨ds, mt digitText_eq_nil_iff.mpr hrun.1, ?_, rfl⟩
      rw [← value_digitText]
      exact (Option.some.inj h).symm
    · cases h
  · rintro ⟨ds, hne, rfl, rfl⟩
    have hrun : (!(digitText ds).isEmpty && (digitText ds).all Char.isDigit) = true := by
      rw [Bool.and_eq_true, Bool.not_eq_true', List.isEmpty_eq_false_iff, List.all_eq_true]
      exact ⟨mt digitText_eq_nil_iff.mp hne, fun c hc => isDigit_of_mem_digitText hc⟩
    rw [if_pos hrun, value_digitText]

/-- A text without the plus sign that it begins with, if there is one. -/
def unsigned : List Char → List Char
  | '+' :: rest => rest
  | cs => cs

theorem word?_eq (cs : List Char) : word? cs = (nat? (unsigned cs)).filter (· < wordSize) := rfl

/-- Among digits there is no sign to drop. -/
theorem unsigned_of_isDigit {cs : List Char} (h : ∀ c ∈ cs, c.isDigit = true) :
    unsigned cs = cs := by
  unfold unsigned
  split
  · exact absurd (h '+' List.mem_cons_self) (by decide)
  · rfl

/-- Numerals are the texts that are digits but for a plus sign in front. -/
theorem isNumeral_iff {cs : List Char} {n : Nat} :
    IsNumeral cs n ↔ nat? (unsigned cs) = some n := by
  rw [nat?_eq_some_iff]
  constructor
  · rintro ⟨ds, hne, hn, rfl | rfl⟩
    · exact ⟨ds, hne, hn, unsigned_of_isDigit fun c hc => isDigit_of_mem_digitText hc⟩
    · exact ⟨ds, hne, hn, rfl⟩
  · rintro ⟨ds, hne, hn, hrun⟩
    refine ⟨ds, hne, hn, ?_⟩
    unfold unsigned at hrun
    split at hrun
    · exact .inr (by rw [hrun])
    · exact .inl hrun

/-- A numeral below `2 ^ 64` is read as the number that it writes, and nothing else is read. -/
theorem word?_eq_some_iff {cs : List Char} {n : Nat} :
    word? cs = some n ↔ IsNumeral cs n ∧ n < wordSize := by
  rw [word?_eq, Option.filter_eq_some_iff, isNumeral_iff, decide_eq_true_eq]

/-- A numeral has a digit, and no other characters than digits and the plus sign. -/
theorem IsNumeral.forall_chars {cs : List Char} {n : Nat} (h : IsNumeral cs n) :
    (∃ c ∈ cs, c.isDigit = true) ∧ ∀ c ∈ cs, c.isDigit = true ∨ c = '+' := by
  obtain ⟨ds, hne, -, hcs⟩ := h
  obtain ⟨c, hc⟩ := List.exists_mem_of_ne_nil _ (mt digitText_eq_nil_iff.mp hne)
  have hdigit := isDigit_of_mem_digitText hc
  rcases hcs with rfl | rfl
  · exact ⟨⟨c, hc, hdigit⟩, fun d hd => .inl (isDigit_of_mem_digitText hd)⟩
  · refine ⟨⟨c, List.mem_cons_of_mem _ hc, hdigit⟩, fun d hd => ?_⟩
    rcases List.mem_cons.mp hd with rfl | hd
    · exact .inr rfl
    · exact .inl (isDigit_of_mem_digitText hd)

end Decimal

end NearbyBeacons
