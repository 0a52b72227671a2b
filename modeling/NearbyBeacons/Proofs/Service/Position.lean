import NearbyBeacons.Proofs.Decimal
import NearbyBeacons.Proofs.Service.Answer
/-!
# Paths of rows

A path below that of the list leads to a row, unless its segment is a fixed name (`ofPath?_row`).
The segment names a position if the text that it stands for is a numeral below `2 ^ 64`
(`positionOf_of_isNumeral`), and none otherwise. The decimal text of a number names it: nothing
in it needs an escape (`segmentText?_of_plain`), and it reads back (`positionOf_natText`).
-/

namespace NearbyBeacons

/-! ### Plain segments -/

namespace Utf8

theorem encodeChar_of_ascii {c : Char} (h : c.toNat < 0x80) : encodeChar c = [c.toNat.toUInt8] := by
  simp only [encodeChar, if_pos h]

theorem charFrom?_toNat (c : Char) : charFrom? 0 c.toNat = some c := by
  have hvalid : c.toNat.isValidChar := c.valid
  rw [charFrom?, dif_pos ⟨Nat.zero_le _, hvalid⟩]
  congr 1
  apply Char.ext
  exact UInt32.ofNat_toNat

theorem decodeFrom?_cons_of_ascii (done : List Char) {a : UInt8} (rest : List UInt8)
    (h : a < 0x80) :
    decodeFrom? done (a :: rest) =
      (charFrom? 0 a.toNat).bind fun c => decodeFrom? (c :: done) rest := by
  -- by the definition itself: the equations of all its branches are slow to make
  delta decodeFrom?
  refine (if_pos h).trans ?_
  cases charFrom? 0 a.toNat with
  | none => rfl
  | some c => rfl

/-- ASCII characters are read back from their bytes. -/
theorem decodeFrom?_ascii (done : List Char) {cs : List Char} (h : ∀ c ∈ cs, c.toNat < 0x80) :
    decodeFrom? done (cs.flatMap encodeChar) = some (done.reverse ++ cs) := by
  induction cs generalizing done with
  | nil => exact congrArg some (List.append_nil _).symm
  | cons c cs ih =>
    have hc : c.toNat < 0x80 := h c List.mem_cons_self
    have hbyte : c.toNat.toUInt8.toNat = c.toNat := by
      rw [Nat.toUInt8, UInt8.toNat_ofNat']
      omega
    have hlt : c.toNat.toUInt8 < 0x80 := by
      rw [UInt8.lt_iff_toNat_lt, hbyte]
      exact hc
    rw [List.flatMap_cons, encodeChar_of_ascii hc, List.singleton_append,
      decodeFrom?_cons_of_ascii done _ hlt, hbyte, charFrom?_toNat, Option.bind_some,
      ih _ fun d hd => h d (List.mem_cons_of_mem _ hd), List.reverse_cons, List.append_assoc,
      List.singleton_append]

end Utf8

namespace Http

theorem unescape_of_plain {cs : List Char} (h : ∀ c ∈ cs, c ≠ '%') :
    unescape cs = cs.flatMap Utf8.encodeChar := by
  induction cs with
  | nil => rfl
  | cons c cs ih =>
    have hc : c ≠ '%' := h c List.mem_cons_self
    rw [unescape, ih fun d hd => h d (List.mem_cons_of_mem _ hd), List.flatMap_cons]
    intro a b rest heq
    exact absurd heq hc

/-- A segment of ASCII characters without a percent sign stands for itself. -/
theorem segmentText?_of_plain {cs : List Char} (hascii : ∀ c ∈ cs, c.toNat < 0x80)
    (hplain : ∀ c ∈ cs, c ≠ '%') : segmentText? cs = some cs := by
  rw [segmentText?, unescape_of_plain hplain, Utf8.decode?, Utf8.decodeFrom?_ascii [] hascii]
  rfl

end Http

/-! ### Positions -/

section Positions

variable {segment : String} {text : List Char}

/-- A segment that stands for a numeral below `2 ^ 64` names the number as a position. -/
theorem positionOf_of_isNumeral (htext : Http.segmentText? segment.toList = some text) {n : Nat}
    (hnumeral : Decimal.IsNumeral text n) (hn : n < Decimal.wordSize) :
    positionOf segment = .ok n := by
  rw [positionOf, htext]
  simp only [Decimal.word?_eq_some_iff.mpr ⟨hnumeral, hn⟩]

/-- A segment that stands for any other text names no position. -/
theorem positionOf_of_notNumber (htext : Http.segmentText? segment.toList = some text)
    (h : ∀ n, Decimal.IsNumeral text n → Decimal.wordSize ≤ n) :
    positionOf segment = .error (.notNumber (String.ofList text)) := by
  have hword : Decimal.word? text = none := by
    rw [Option.eq_none_iff_forall_ne_some]
    intro n hn
    obtain ⟨hnumeral, hlt⟩ := Decimal.word?_eq_some_iff.mp hn
    exact absurd hlt (Nat.not_lt.mpr (h n hnumeral))
  rw [positionOf, htext]
  simp only [hword]

/-- A segment that stands for no text names no position. -/
theorem positionOf_of_notText (h : Http.segmentText? segment.toList = none) :
    positionOf segment = .error .notText := by
  rw [positionOf, h]

end Positions

/-- The decimal text of a number names it as a position. -/
theorem positionOf_natText {n : Nat} (h : n < Decimal.wordSize) :
    positionOf (Decimal.natText n) = .ok n := by
  have hbounds : ∀ c ∈ Decimal.digits n, 48 ≤ c.toNat ∧ c.toNat ≤ 57 := fun c hc =>
    toNat_of_isDigit (Decimal.isDigit_of_mem_digits hc)
  have htext : Http.segmentText? (Decimal.digits n) = some (Decimal.digits n) := by
    apply Http.segmentText?_of_plain
    · intro c hc
      have := hbounds c hc
      omega
    · rintro c hc rfl
      exact absurd (hbounds _ hc).1 (by decide)
  rw [← Decimal.toList_natText] at htext
  refine positionOf_of_isNumeral htext ?_ h
  rw [Decimal.isNumeral_iff, Decimal.toList_natText,
    Decimal.unsigned_of_isDigit fun c hc => Decimal.isDigit_of_mem_digits hc]
  exact Decimal.nat?_digits n

namespace Route

/-- A segment behind the path of the list leads to a row, unless it is one of the fixed names. -/
theorem ofPath?_row {segment : String} (hslash : '/' ∉ segment.toList) (hempty : segment ≠ "")
    (hfilter : segment ≠ "filter") (hobservations : segment ≠ "observations") :
    ofPath? ("/api/beacons/" ++ segment).toList = some (.row segment) := by
  have hne : segment.isEmpty = false := by
    rw [← Bool.not_eq_true, String.isEmpty_iff]
    exact hempty
  rw [ofPath?_segment hslash, ofSegments?, hne]
  · rfl
  · exact hfilter
  · exact hobservations

/-- The path of a row. -/
def rowPath (position : Nat) : String := "/api/beacons/" ++ Decimal.natText position

theorem ofPath?_rowPath (n : Nat) :
    ofPath? (rowPath n).toList = some (.row (Decimal.natText n)) := by
  have hdigit : ∀ c ∈ (Decimal.natText n).toList, c.isDigit = true := by
    intro c hc
    rw [Decimal.toList_natText] at hc
    exact Decimal.isDigit_of_mem_digits hc
  have hslash : '/' ∉ (Decimal.natText n).toList := fun hmem =>
    absurd (hdigit '/' hmem) (by decide)
  have hempty : Decimal.natText n ≠ "" := by
    simpa [Decimal.natText] using Decimal.digits_ne_nil n
  -- the fixed names at the place of a position are no numbers
  have hname : ∀ name : String, (∃ c ∈ name.toList, c.isDigit = false) →
      Decimal.natText n ≠ name := by
    rintro name ⟨c, hc, hnone⟩ rfl
    rw [hdigit c hc] at hnone
    cases hnone
  exact ofPath?_row hslash hempty (hname "filter" ⟨'f', by simp, by decide⟩)
    (hname "observations" ⟨'o', by simp, by decide⟩)

end Route

end NearbyBeacons
