/-!
# Decimal texts of whole numbers

Numbers are written with the fewest digits, a minus sign in front of a negative
one. The main statement, `nat?_digits`, says that a written number reads back.
-/

namespace NearbyBeacons.Decimal

/-- The decimal digits of `n`. -/
def digits (n : Nat) : List Char := Nat.toDigits 10 n

/-- The decimal digits of `n`, with zeros in front up to `width` of them. -/
def padded (width n : Nat) : List Char := (digits n).leftpad width '0'

/-- The number that a run of digits stands for. -/
def value (cs : List Char) : Nat := Nat.ofDigitChars 10 cs 0

/-- The number that `cs` writes, when `cs` is one or more digits. -/
def nat? (cs : List Char) : Option Nat :=
  if !cs.isEmpty && cs.all Char.isDigit then some (value cs) else none

/-- The number of values of a word: `2 ^ 64`. -/
def wordSize : Nat := 18446744073709551616

/-- The number of values of a signed word that are not negative: `2 ^ 63`. -/
def signedSize : Nat := 9223372036854775808

/-- Whether a number fits a signed word. -/
def fitsSigned (n : Int) : Bool := -(signedSize : Int) ≤ n && n < signedSize

/-- The number below `2 ^ 64` that `cs` writes, with a plus sign or without. -/
def word? (cs : List Char) : Option Nat :=
  let run := match cs with
    | '+' :: rest => rest
    | cs => cs
  (nat? run).filter (· < wordSize)

/-- A whole number, with a minus sign in front of a negative one. -/
def int : Int → List Char
  | .ofNat n => digits n
  | .negSucc n => '-' :: digits (n + 1)

/-- The decimal text of `n`. -/
def natText (n : Nat) : String := String.ofList (digits n)

/-- The decimal text of `n`, with a minus sign in front of a negative one. -/
def intText (n : Int) : String := String.ofList (int n)

theorem value_digits (n : Nat) : value (digits n) = n :=
  Nat.ofDigitChars_toDigits (by decide) (by decide)

/-- The last digit comes off the end. -/
theorem digits_eq (n : Nat) :
    digits n = if n < 10 then [n.digitChar] else digits (n / 10) ++ [(n % 10).digitChar] :=
  Nat.toDigits_eq_if (by decide)

theorem isDigit_digitChar {n : Nat} (h : n < 10) : n.digitChar.isDigit = true := by
  match n, h with
  | 0, _ | 1, _ | 2, _ | 3, _ | 4, _ | 5, _ | 6, _ | 7, _ | 8, _ | 9, _ => decide

theorem digits_ne_nil (n : Nat) : digits n ≠ [] := by
  rw [digits_eq]; split <;> simp

theorem all_isDigit_digits (n : Nat) : (digits n).all Char.isDigit = true := by
  induction n using Nat.strongRecOn with
  | _ n ih =>
    rw [digits_eq]
    split
    · next h => simp [isDigit_digitChar h]
    · next h =>
      rw [List.all_append, ih (n / 10) (by omega)]
      simp [isDigit_digitChar (Nat.mod_lt n (by decide : 10 > 0))]

/-- A written number reads back. -/
theorem nat?_digits (n : Nat) : nat? (digits n) = some n := by
  simp [nat?, digits_ne_nil, all_isDigit_digits, value_digits]

end NearbyBeacons.Decimal
