import Mathlib.Data.List.Basic
import NearbyBeacons.Text.Lowercase
/-!
# What comes to ASCII in lower case

Besides the ASCII characters that are no upper-case letters, only the ASCII capitals, the Kelvin
sign and `İ` have an ASCII character in their lower case (`lowerIn_spec`), and no text in lower
case holds one of those (`not_hasAsciiPartner_of_mem_lowercase`). What is in lower case already and
comes to an ASCII text when it is lowered again is therefore that very text
(`lowercase_eq_self_of_ascii`).
-/

namespace NearbyBeacons.Text

/-- A character whose lower case is another one, in ASCII. -/
def HasAsciiPartner (c : Char) : Prop :=
  (0x41 ≤ c.toNat ∧ c.toNat ≤ 0x5A) ∨ c.toNat = 0x212A ∨ c.toNat = 0x130

/-! ### The table -/

/-- A character with a partner lies in a run, whose shift leads to the partner. -/
theorem exists_run_of_caseShift_ne_zero {n : Nat} {runs : List CaseRun}
    (h : caseShift n runs ≠ 0) :
    ∃ r ∈ runs, r.first ≤ n ∧ n ≤ r.last ∧ caseShift n runs = r.shift := by
  induction runs with
  | nil => exact absurd rfl h
  | cons r runs ih =>
    rw [caseShift] at h ⊢
    split at h
    · exact absurd rfl h
    · next hfirst =>
      rw [if_neg hfirst]
      split at h
      · next hlast =>
        rw [if_pos hlast]
        split at h
        · next hstride =>
          rw [if_pos hstride]
          exact ⟨r, List.mem_cons_self, Nat.le_of_not_lt hfirst, hlast, rfl⟩
        · exact absurd rfl h
      · next hlast =>
        rw [if_neg hlast]
        obtain ⟨r', hr', hrun⟩ := ih h
        exact ⟨r', List.mem_cons_of_mem r hr', hrun⟩

/-- Where the runs lead to: only two of them to ASCII, none to a character with a partner in
ASCII, and each to code points of characters. -/
theorem images_of_runs : ∀ r ∈ lowercaseRuns,
    (128 ≤ r.first + r.shift ∨ (r.first = 0x41 ∧ r.last = 0x5A) ∨
      (r.first = 0x212A ∧ r.last = 0x212A)) ∧
    (r.last + r.shift < 0x41 ∨ 0x5A < r.first + r.shift) ∧
    (r.last + r.shift < 0x130 ∨ 0x130 < r.first + r.shift) ∧
    (r.last + r.shift < 0x212A ∨ 0x212A < r.first + r.shift) ∧
    (r.last + r.shift < 0xD800 ∨ 0xDFFF < r.first + r.shift) ∧
    0 ≤ r.first + r.shift ∧ r.last + r.shift < 0x110000 := by
  decide +kernel

/-- The partner of a character, as far as ASCII is concerned. -/
theorem partner_spec {c : Char} (h : caseShift c.toNat lowercaseRuns ≠ 0) :
    let d := Char.ofNat ((c.toNat : Int) + caseShift c.toNat lowercaseRuns).toNat
    ¬HasAsciiPartner d ∧ (d.toNat < 128 → HasAsciiPartner c) := by
  obtain ⟨r, hr, hfirst, hlast, hshift⟩ := exists_run_of_caseShift_ne_zero h
  obtain ⟨hascii, hcapital, hdotted, hkelvin, hvalid, hpos, hmax⟩ := images_of_runs r hr
  intro d
  have hd : d.toNat = ((c.toNat : Int) + r.shift).toNat := by
    show (Char.ofNat _).toNat = _
    rw [hshift]
    have hchar : ((c.toNat : Int) + r.shift).toNat.isValidChar := by
      unfold Nat.isValidChar
      omega
    rw [Char.ofNat, dif_pos hchar]
    rfl
  simp only [HasAsciiPartner, hd]
  omega

theorem caseShift_ne_zero_of_hasAsciiPartner {c : Char} (h : HasAsciiPartner c) (hc : c ≠ 'İ') :
    caseShift c.toNat lowercaseRuns ≠ 0 := by
  have hcapital : ∀ n ≤ 0x5A, 0x41 ≤ n → caseShift n lowercaseRuns ≠ 0 := by decide +kernel
  rcases h with h | h | h
  · exact hcapital c.toNat h.2 h.1
  · rw [h]
    decide +kernel
  · exact absurd (Char.toNat_inj.mp h) hc

/-! ### Characters -/

/-- What becomes of a character: one that has no partner in ASCII, and an ASCII character only of
itself or of one with such a partner. -/
theorem lowerIn_spec (before : List Char) (c : Char) (after : List Char) :
    (∀ d ∈ lowerIn before c after, ¬HasAsciiPartner d) ∧
      (¬HasAsciiPartner c → (∀ d ∈ lowerIn before c after, d.toNat < 128) →
        lowerIn before c after = [c]) := by
  have hsigma : ∀ d ∈ ['ς', 'σ'], ¬HasAsciiPartner d ∧ ¬d.toNat < 128 := by
    simp [HasAsciiPartner]
  have hdotted : ∀ d ∈ ['i', '\u0307'], ¬HasAsciiPartner d := by
    simp [HasAsciiPartner]
  rw [lowerIn]
  split
  · set d : Char := if isWordEnd before after then 'ς' else 'σ' with hd
    have hmem : d ∈ ['ς', 'σ'] := by
      rw [hd]
      split <;> simp
    refine ⟨fun e he => ?_, fun _ hascii => absurd (hascii d List.mem_cons_self) (hsigma d hmem).2⟩
    rw [List.mem_singleton.mp he]
    exact (hsigma d hmem).1
  · rw [lowerChar]
    split
    · next hc =>
      refine ⟨hdotted, fun hpartner => absurd ?_ hpartner⟩
      rw [hc]
      simp [HasAsciiPartner]
    · by_cases hshift : caseShift c.toNat lowercaseRuns = 0
      · rw [hshift, Int.add_zero, Int.toNat_natCast, Char.ofNat_toNat]
        refine ⟨fun e he => ?_, fun _ _ => rfl⟩
        rw [List.mem_singleton.mp he]
        intro hpartner
        exact caseShift_ne_zero_of_hasAsciiPartner hpartner ‹_› hshift
      · obtain ⟨hpartner, hascii⟩ := partner_spec hshift
        refine ⟨fun e he => ?_, fun hc hall => absurd (hascii (hall _ List.mem_cons_self)) hc⟩
        rw [List.mem_singleton.mp he]
        exact hpartner

/-! ### Texts -/

theorem lowercaseFrom_append (before done cs : List Char) :
    lowercaseFrom before done cs = done.reverse ++ lowercaseFrom before [] cs := by
  induction cs generalizing before done with
  | nil => simp [lowercaseFrom]
  | cons c cs ih =>
    rw [lowercaseFrom, lowercaseFrom, ih _ (_ ++ done), ih _ (_ ++ [])]
    simp

theorem lowercaseFrom_cons (before : List Char) (c : Char) (cs : List Char) :
    lowercaseFrom before [] (c :: cs) =
      lowerIn before c cs ++ lowercaseFrom (c :: before) [] cs := by
  rw [lowercaseFrom, lowercaseFrom_append]
  simp

/-- No text in lower case holds a character that has a partner in ASCII. -/
theorem not_hasAsciiPartner_of_mem_lowercase {cs : List Char} {d : Char}
    (h : d ∈ lowercase cs) : ¬HasAsciiPartner d := by
  suffices hfrom : ∀ before, d ∈ lowercaseFrom before [] cs → ¬HasAsciiPartner d from hfrom [] h
  clear h
  induction cs with
  | nil => nofun
  | cons c cs ih =>
    intro before hd
    rw [lowercaseFrom_cons] at hd
    rcases List.mem_append.mp hd with hd | hd
    · exact (lowerIn_spec before c cs).1 d hd
    · exact ih _ hd

/-- Without a character that has a partner in ASCII, a text whose lower case is ASCII keeps its
spelling. -/
theorem lowercase_eq_self_of_ascii {cs : List Char} (h : ∀ c ∈ cs, ¬HasAsciiPartner c)
    (hascii : ∀ d ∈ lowercase cs, d.toNat < 128) : lowercase cs = cs := by
  suffices hfrom : ∀ before, (∀ d ∈ lowercaseFrom before [] cs, d.toNat < 128) →
      lowercaseFrom before [] cs = cs from hfrom [] hascii
  clear hascii
  induction cs with
  | nil => exact fun _ _ => rfl
  | cons c cs ih =>
    intro before hall
    rw [lowercaseFrom_cons] at hall ⊢
    have hfirst := (lowerIn_spec before c cs).2 (h c List.mem_cons_self)
      fun d hd => hall d (List.mem_append_left _ hd)
    have hrest := ih (fun d hd => h d (List.mem_cons_of_mem c hd)) (c :: before)
      fun d hd => hall d (List.mem_append_right _ hd)
    rw [hfirst, hrest, List.singleton_append]

end NearbyBeacons.Text
