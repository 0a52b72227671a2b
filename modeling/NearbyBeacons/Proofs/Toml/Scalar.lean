import Mathlib.Data.List.Basic
import NearbyBeacons.Proofs.Decimal
import NearbyBeacons.Proofs.Text.Run
import NearbyBeacons.Proofs.Toml.Quoted
import NearbyBeacons.Toml.Document
/-!
# Written values read back

A string in any form, a whole number that fits a signed word, and a switch are read as
themselves where a line ends behind them (`Scalar.writes_text`). The digits of a number are not
taken for those of a date or a time, behind which a hyphen or a colon would have to follow, and
the number does not begin with a zero, so that no mark of another base can follow one.
-/

namespace NearbyBeacons.Toml

/-- A text that is read as a value where a line ends behind it. -/
def Writes (text : List Char) (v : Value) : Prop :=
  ∀ rest, value? (depthLimit - 1) (skipSpaces (text ++ '\n' :: rest)) = some (v, '\n' :: rest)

/-- A character that begins neither an array nor a table, and is no space. -/
def startsScalar (c : Char) : Bool := !isSpace c && c != '[' && c != '\x7B'

/-- What begins neither an array nor a table is read as a scalar, at any depth. -/
theorem value?_of_startsScalar {c : Char} (h : startsScalar c = true) (depth : Nat)
    (cs : List Char) : value? depth (skipSpaces (c :: cs)) = scalar? (c :: cs) := by
  simp only [startsScalar, Bool.and_eq_true, Bool.not_eq_true', bne_iff_ne, ne_eq] at h
  obtain ⟨⟨hspace, harray⟩, htable⟩ := h
  have hskip : skipSpaces (c :: cs) = c :: cs :=
    List.dropWhile_cons_of_neg (by simp [hspace])
  rw [hskip]
  cases depth with
  | zero => rw [value?]
  | succ depth =>
    rw [value?]
    · exact fun _ heq => harray (List.cons.inj heq).1
    · exact fun _ heq => htable (List.cons.inj heq).1

/-! ### Strings -/

/-- A written string begins with a quotation mark of either kind. -/
theorem exists_quoted (cs : List Char) :
    ∃ body, quoted cs = '"' :: body ∨ quoted cs = '\'' :: body := by
  unfold quoted
  simp only
  split <;> simp

theorem writes_quoted (cs : List Char) : Writes (quoted cs) (.string (String.ofList cs)) := by
  intro rest
  have hread : text? (quoted cs ++ '\n' :: rest) = some (cs, '\n' :: rest) :=
    text?_quoted cs (by simp) (by simp)
  obtain ⟨body, hquoted | hquoted⟩ := exists_quoted cs <;> rw [hquoted] at hread ⊢
  · rw [List.cons_append] at hread ⊢
    rw [value?_of_startsScalar (by decide), scalar?, hread]
    rfl
  · rw [List.cons_append] at hread ⊢
    rw [value?_of_startsScalar (by decide), scalar?, hread]
    rfl

/-! ### Numbers -/

/-- What stands behind some digits of a written number is a digit, or the end of the line. -/
theorem mark?_of_digits? {width low high n : Nat} {run rest left : List Char} {c : Char}
    (hrun : ∀ d ∈ run, d.isDigit = true) (hc : c.isDigit = false) (hnewline : c ≠ '\n')
    (h : digits? width low high (run ++ '\n' :: rest) = some (n, left)) : mark? c left = none := by
  rw [digits?] at h
  split at h
  · next hcond =>
    obtain ⟨hlength, hall, -⟩ := hcond
    have hwidth : width ≤ run.length := by
      by_contra hgt
      have hmem : '\n' ∈ (run ++ '\n' :: rest).take width := by
        rw [List.take_append]
        obtain ⟨k, hk⟩ : ∃ k, width - run.length = k + 1 := ⟨width - run.length - 1, by omega⟩
        simp [hk]
      exact absurd (List.all_eq_true.mp hall _ hmem) (by decide)
    have hleft : left = run.drop width ++ '\n' :: rest := by
      rw [← (Prod.mk.inj (Option.some.inj h)).2, List.drop_append_of_le_length hwidth]
    rw [hleft]
    cases hdrop : run.drop width with
    | nil => exact if_neg fun heq => hnewline heq.symm
    | cons d digits =>
      have hd : d.isDigit = true := hrun d (List.mem_of_mem_drop (hdrop ▸ List.mem_cons_self))
      exact if_neg (Text.ne_of_kind hd hc)
  · cases h

/-- Digits with the end of a line behind them are no date and no time. -/
theorem moment?_digits {run : List Char} (hrun : ∀ d ∈ run, d.isDigit = true) (rest : List Char) :
    moment? (run ++ '\n' :: rest) = none := by
  have hdate : date? (run ++ '\n' :: rest) = none := by
    rw [date?]
    cases h : digits? 4 0 9999 (run ++ '\n' :: rest) with
    | none => rfl
    | some found =>
      simp [mark?_of_digits? hrun (c := '-') (by decide) (by decide) h]
  have htime : time? (run ++ '\n' :: rest) = none := by
    rw [time?, timeUpTo?]
    cases h : digits? 2 0 23 (run ++ '\n' :: rest) with
    | none => rfl
    | some found =>
      simp [mark?_of_digits? hrun (c := ':') (by decide) (by decide) h]
  rw [moment?, hdate, htime]

theorem runFrom_digits (done : List Char) {run : List Char}
    (hrun : ∀ d ∈ run, d.isDigit = true) (rest : List Char) :
    runFrom Char.isDigit done (run ++ '\n' :: rest) = (done.reverse ++ run, '\n' :: rest) := by
  induction run generalizing done with
  | nil =>
    rw [List.nil_append, runFrom, if_neg (by decide), List.append_nil]
    exact fun _ _ heq => absurd heq (by decide)
  | cons d run ih =>
    have hd : d.isDigit = true := hrun d List.mem_cons_self
    rw [List.cons_append, runFrom, if_pos hd, ih _ fun c hc => hrun c (List.mem_cons_of_mem _ hc),
      List.reverse_cons, List.append_assoc, List.singleton_append]
    rintro c cs rfl
    exact absurd hd (by decide)

/-- All digits of a number are taken, since none but a lone zero is zero in front. -/
theorem leadingRun?_digits (n : Nat) (rest : List Char) :
    leadingRun? (Decimal.digits n ++ '\n' :: rest) = some (Decimal.digits n, '\n' :: rest) := by
  by_cases hn : n = 0
  · rw [hn]
    rfl
  · have hhead := Decimal.head?_digits_ne_zero hn
    have hrun := fun c => Decimal.isDigit_of_mem_digits (n := n) (c := c)
    cases hdigits : Decimal.digits n with
    | nil => exact absurd hdigits (Decimal.digits_ne_nil n)
    | cons d run =>
      rw [hdigits] at hhead hrun
      rw [List.cons_append, leadingRun?, run?, if_pos (hrun d List.mem_cons_self),
        runFrom_digits _ fun c hc => hrun c (List.mem_cons_of_mem _ hc)]
      · rfl
      · exact fun _ heq => hhead (by rw [(List.cons.inj heq).1]; rfl)

theorem fitsSigned_of_lt {n : Nat} (h : n < Decimal.signedSize) :
    Decimal.fitsSigned n = true := by
  rw [Decimal.fitsSigned]
  generalize Decimal.signedSize = size at h ⊢
  rw [Bool.and_eq_true, decide_eq_true_eq, decide_eq_true_eq]
  omega

theorem decimal?_digits {n : Nat} (h : n < Decimal.signedSize) (rest : List Char) :
    decimal? false (Decimal.digits n ++ '\n' :: rest) = some (.integer n, '\n' :: rest) := by
  have hfraction : fractionRun? ('\n' :: rest) = some ([], '\n' :: rest) := rfl
  have hexponent : exponent? ('\n' :: rest) = some (none, '\n' :: rest) := rfl
  have hword : word? n = some (.integer n) := if_pos (fitsSigned_of_lt h)
  -- step by step: the branch of a float, once simplified, is too much for the kernel
  refine Option.bind_eq_some_iff.mpr ⟨_, leadingRun?_digits n rest, ?_⟩
  refine Option.bind_eq_some_iff.mpr ⟨_, hfraction, ?_⟩
  refine Option.bind_eq_some_iff.mpr ⟨_, hexponent, ?_⟩
  refine (if_pos rfl).trans (Option.bind_eq_some_iff.mpr ⟨_, ?_, rfl⟩)
  rw [if_neg (by decide), Decimal.value_digits, hword]

/-- No mark of a base, no sign and no name is in front of the digits. -/
theorem number?_digits {n : Nat} (h : n < Decimal.signedSize) (rest : List Char) :
    number? (Decimal.digits n ++ '\n' :: rest) = some (.integer n, '\n' :: rest) := by
  have hread := decimal?_digits h rest
  have hzero : Decimal.digits n = ['0'] ∨ (Decimal.digits n).head? ≠ some '0' := by
    by_cases hn : n = 0
    · exact .inl (hn ▸ Decimal.digits_zero)
    · exact .inr (Decimal.head?_digits_ne_zero hn)
  cases hdigits : Decimal.digits n with
  | nil => exact absurd hdigits (Decimal.digits_ne_nil n)
  | cons d run =>
    have hd : d.isDigit = true :=
      Decimal.isDigit_of_mem_digits (n := n) (hdigits ▸ List.mem_cons_self)
    have hne : ∀ {c : Char} {cs cs' : List Char}, c.isDigit = false → d :: cs ≠ c :: cs' :=
      fun hc heq => Text.ne_of_kind hd hc (List.cons.inj heq).1
    -- behind a zero the line ends
    have hmark : ∀ {c : Char} {cs : List Char}, c ≠ '\n' →
        d :: (run ++ '\n' :: rest) ≠ '0' :: c :: cs := by
      intro c cs hc heq
      obtain ⟨rfl, hbehind⟩ := List.cons.inj heq
      rcases hzero with hsingle | hhead
      · rw [hdigits] at hsingle
        rw [(List.cons.inj hsingle).2] at hbehind
        exact hc (List.cons.inj hbehind).1.symm
      · exact hhead (by rw [hdigits]; rfl)
    have hsign : sign (d :: (run ++ '\n' :: rest)) = (false, d :: (run ++ '\n' :: rest)) := by
      rw [sign]
      · exact fun _ => hne (by decide)
      · exact fun _ => hne (by decide)
    rw [hdigits] at hread
    rw [List.cons_append] at hread ⊢
    unfold number?
    split
    · exact absurd ‹_› (hmark (by decide))
    · exact absurd ‹_› (hmark (by decide))
    · exact absurd ‹_› (hmark (by decide))
    · rw [hsign]
      simp only
      split
      · exact absurd ‹_› (hne (by decide))
      · exact absurd ‹_› (hne (by decide))
      · exact hread

theorem writes_digits {n : Nat} (h : n < Decimal.signedSize) :
    Writes (Decimal.digits n) (.integer n) := by
  intro rest
  have hmoment := moment?_digits (fun _ => Decimal.isDigit_of_mem_digits (n := n)) rest
  have hnumber := number?_digits h rest
  cases hdigits : Decimal.digits n with
  | nil => exact absurd hdigits (Decimal.digits_ne_nil n)
  | cons d run =>
    have hd : d.isDigit = true :=
      Decimal.isDigit_of_mem_digits (n := n) (hdigits ▸ List.mem_cons_self)
    have hne : ∀ {c : Char}, c.isDigit = false → d ≠ c := Text.ne_of_kind hd
    have hstarts : startsScalar d = true := by
      simp only [startsScalar, isSpace, Bool.and_eq_true, Bool.not_eq_true', Bool.or_eq_false_iff,
        bne_iff_ne, beq_eq_false_iff_ne]
      exact ⟨⟨⟨hne (by decide), hne (by decide)⟩, hne (by decide)⟩, hne (by decide)⟩
    rw [hdigits, List.cons_append] at hmoment hnumber
    rw [List.cons_append, value?_of_startsScalar hstarts, scalar?]
    · rw [hmoment]
      exact hnumber
    · exact fun _ heq => hne (by decide) (List.cons.inj heq).1
    · exact fun _ heq => hne (by decide) (List.cons.inj heq).1
    · exact fun _ heq => hne (by decide) (List.cons.inj heq).1
    · exact fun _ heq => hne (by decide) (List.cons.inj heq).1

/-! ### All three -/

/-- A value on a line of its own. -/
inductive Scalar where
  | string (s : String)
  | number (n : Nat)
  | switch (b : Bool)

namespace Scalar

/-- What is written for a value. -/
def text : Scalar → List Char
  | string s => quoted s.toList
  | number n => Decimal.digits n
  | switch true => ['t', 'r', 'u', 'e']
  | switch false => ['f', 'a', 'l', 's', 'e']

/-- What is read for a value. -/
def value : Scalar → Value
  | string s => .string s
  | number n => .integer n
  | switch b => .bool b

/-- A number is a signed word; any other value can be written. -/
def Fits : Scalar → Prop
  | number n => n < Decimal.signedSize
  | _ => True

/-- A written value reads back. -/
theorem writes_text {v : Scalar} (h : v.Fits) : Writes v.text v.value := by
  cases v with
  | string s =>
    have hquoted := writes_quoted s.toList
    rw [String.ofList_toList] at hquoted
    exact hquoted
  | number n => exact writes_digits h
  | switch b =>
    cases b with
    | true => exact fun _ => rfl
    | false => exact fun _ => rfl

end Scalar

end NearbyBeacons.Toml
