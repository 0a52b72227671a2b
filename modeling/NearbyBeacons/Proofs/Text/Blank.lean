import Mathlib.Data.List.DropRight
import NearbyBeacons.Proofs.Decimal
import NearbyBeacons.Text.Blank
/-!
# Texts that show something

A text that holds a character other than a blank one is not blank (`isBlankText_eq_false`), and
trimming goes no further than such a character: it leaves a text that begins with one
(`trimStart_cons`), and at the end it leaves all before the last one (`trimEnd_append`). What is
left at the end is told by two properties (`isTrimmed_iff`).
-/

namespace NearbyBeacons.Text

/-! ### Characters -/

/-- Digits show something. -/
theorem isBlank_of_isDigit {c : Char} (h : c.isDigit = true) : isBlank c = false := by
  have hrange := toNat_of_isDigit h
  simp only [isBlank, Bool.or_eq_false_iff, Bool.and_eq_false_iff, decide_eq_false_iff_not,
    beq_eq_false_iff_ne]
  omega

/-! ### Texts -/

/-- A text with a character that is not blank is not blank. -/
theorem isBlankText_eq_false {s : String} {c : Char} (hmem : c ∈ s.toList)
    (h : isBlank c = false) : isBlankText s = false := by
  rw [isBlankText, List.all_eq_false]
  exact ⟨c, hmem, by simp [h]⟩

@[simp] theorem isBlankText_empty : isBlankText "" = true := rfl

/-! ### Trimming -/

/-- A character in front that is not blank stays in front. -/
theorem trimStart_cons {c : Char} (h : isBlank c = false) (cs : List Char) :
    trimStart (c :: cs) = c :: cs :=
  List.dropWhile_cons_of_neg (by simp [h])

/-- Digits are not blank. -/
theorem trimStart_digits {run : List Char} (hne : run ≠ []) (hrun : ∀ c ∈ run, c.isDigit = true)
    (rest : List Char) : trimStart (run ++ rest) = run ++ rest := by
  obtain ⟨c, cs, rfl⟩ := List.exists_cons_of_ne_nil hne
  exact trimStart_cons (isBlank_of_isDigit (hrun c List.mem_cons_self)) _

/-- A character in front that is not blank is not reached from the end. -/
theorem trimEnd_cons {c : Char} (h : isBlank c = false) (cs : List Char) :
    trimEnd (c :: cs) = c :: trimEnd cs := by
  rw [trimEnd, trimEnd, List.reverse_cons, List.dropWhile_append]
  split
  · next hnil =>
    rw [List.isEmpty_iff.mp hnil, List.dropWhile_cons_of_neg (by simp [h])]
    rfl
  · rw [List.reverse_append]
    rfl

/-- Where something is left at the end, all before it is. -/
theorem trimEnd_append (front : List Char) {back : List Char} (h : trimEnd back ≠ []) :
    trimEnd (front ++ back) = front ++ trimEnd back := by
  have hleft : (back.reverse.dropWhile isBlank).isEmpty = false := by
    rw [List.isEmpty_eq_false_iff]
    exact mt List.reverse_eq_nil_iff.mpr h
  rw [trimEnd, trimEnd, List.reverse_append, List.dropWhile_append, hleft]
  simp

/-- Blank characters at the end do not count. -/
theorem trimEnd_append_blank (kept : List Char) {removed : List Char}
    (h : ∀ c ∈ removed, isBlank c = true) : trimEnd (kept ++ removed) = trimEnd kept := by
  rw [trimEnd, trimEnd, List.reverse_append, List.dropWhile_append_of_pos]
  exact fun c hc => h c (List.mem_reverse.mp hc)

/-- `kept` is what is left of `text` without the blank characters that it ends with. -/
structure IsTrimmed (text kept : List Char) : Prop where
  exists_removed : ∃ removed, text = kept ++ removed ∧ ∀ c ∈ removed, isBlank c = true
  getLast?_kept : ∀ c ∈ kept.getLast?, isBlank c = false

theorem isTrimmed_trimEnd (text : List Char) : IsTrimmed text (trimEnd text) where
  exists_removed := by
    refine ⟨text.rtakeWhile isBlank, ?_, fun c => List.mem_rtakeWhile_imp⟩
    exact List.rdropWhile_append_rtakeWhile.symm
  getLast?_kept := by
    intro c hc
    obtain ⟨hne, rfl⟩ := List.mem_getLast?_eq_getLast hc
    rw [← Bool.not_eq_true]
    exact List.rdropWhile_last_not isBlank text hne

theorem isTrimmed_iff {text kept : List Char} : IsTrimmed text kept ↔ kept = trimEnd text := by
  constructor
  · rintro ⟨⟨removed, rfl, hremoved⟩, hlast⟩
    rw [trimEnd_append_blank kept hremoved]
    refine (List.rdropWhile_eq_self_iff.mpr fun hne => ?_).symm
    rw [hlast _ (List.getLast_mem_getLast? hne)]
    exact Bool.false_ne_true
  · rintro rfl
    exact isTrimmed_trimEnd text

end NearbyBeacons.Text
