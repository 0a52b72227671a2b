import Mathlib.Data.List.Basic
import NearbyBeacons.Proofs.Text.Run
import NearbyBeacons.Toml.Quoted
import NearbyBeacons.Toml.Text
/-!
# Written strings read back

Whatever form is chosen for a string, reading what was written gives the string back and stops
behind it (`text?_quoted`). For three of the forms nothing about the string is needed but what
the form was chosen for; between tripled double quotes the escapes do all the work
(`basicLinesFrom_linesText`).

Quotes at the end of a string and the closing quotes come together to four or five quotes in a
row, which the reader takes apart again; in front of other characters there are never more than
two in a row.
-/

namespace NearbyBeacons.Toml

/-! ### Escapes -/

theorem codePoint?_four {a b c d : Char} {n : Nat} (h : Ascii.hexNumber? [a, b, c, d] = some n)
    (hvalid : n.isValidChar) (rest : List Char) :
    codePoint? 4 (a :: b :: c :: d :: rest) = some (Char.ofNat n, rest) := by
  simp [codePoint?, h, hvalid]

theorem hexNumber?_code {n : Nat} (h : n < 128) :
    Ascii.hexNumber? ['0', '0', Ascii.hexDigit (n / 16), Ascii.hexDigit (n % 16)] = some n := by
  have hall : ∀ n < 128, Ascii.hexNumber?
      ['0', '0', Ascii.hexDigit (n / 16), Ascii.hexDigit (n % 16)] = some n := by
    decide +kernel
  exact hall n h

/-- What an escape looks like behind its backslash. -/
structure Escapes (c : Char) (code : List Char) : Prop where
  escape : ∀ rest, escape? (code ++ rest) = some (c, rest)
  /-- It does not join two lines. -/
  notJoined : ∀ rest, joinedLine? (code ++ rest) = none

/-- A character is written as an escape, or as itself if nothing else can be meant by it. -/
theorem escapeText_cases (c : Char) :
    (∃ code, escapeText c = '\\' :: code ∧ Escapes c code) ∨
      escapeText c = [c] ∧ c ≠ '"' ∧ c ≠ '\\' ∧ isLineChar c = true := by
  unfold escapeText
  split
  · exact .inl ⟨_, rfl, fun _ => rfl, fun _ => rfl⟩
  · exact .inl ⟨_, rfl, fun _ => rfl, fun _ => rfl⟩
  · exact .inl ⟨_, rfl, fun _ => rfl, fun _ => rfl⟩
  · exact .inl ⟨_, rfl, fun _ => rfl, fun _ => rfl⟩
  · exact .inl ⟨_, rfl, fun _ => rfl, fun _ => rfl⟩
  · exact .inl ⟨_, rfl, fun _ => rfl, fun _ => rfl⟩
  · exact .inl ⟨_, rfl, fun _ => rfl, fun _ => rfl⟩
  · next hquote hbackslash =>
    split
    · next hcontrol =>
      have hlt : c.toNat < 128 := by
        simp only [Bool.or_eq_true, decide_eq_true_eq, beq_iff_eq] at hcontrol
        omega
      refine .inl ⟨_, rfl, fun rest => ?_, fun _ => rfl⟩
      have hcode := codePoint?_four (hexNumber?_code hlt) c.valid rest
      rw [Char.ofNat_toNat] at hcode
      exact hcode
    · next hplain =>
      refine .inr ⟨rfl, hquote, hbackslash, ?_⟩
      simp only [Bool.or_eq_true, decide_eq_true_eq, beq_iff_eq, not_or, Nat.not_lt] at hplain
      simp [isLineChar, hplain]

theorem head?_escapeText_ne_quote (c : Char) : (escapeText c).head? ≠ some '"' := by
  rcases escapeText_cases c with ⟨code, hcode, -⟩ | ⟨hself, hquote, -⟩
  · rw [hcode]
    simp
  · rw [hself]
    simpa using hquote

theorem escapeText_ne_nil (c : Char) : escapeText c ≠ [] := by
  rcases escapeText_cases c with ⟨code, hcode, -⟩ | ⟨hself, -⟩ <;> simp [*]

/-! ### Basic strings on one line -/

theorem basicFrom_escape {done cs rest : List Char} {c : Char} (h : escape? cs = some (c, rest)) :
    basicFrom done ('\\' :: cs) = basicFrom (c :: done) rest := by
  rw [basicFrom]
  split <;> simp_all

theorem basicFrom_char {done rest : List Char} {c : Char} (hquote : c ≠ '"')
    (hbackslash : c ≠ '\\') (hline : isLineChar c = true) :
    basicFrom done (c :: rest) = basicFrom (c :: done) rest := by
  rw [basicFrom, if_pos hline]
  · exact hquote
  · exact hbackslash

/-- A string with escapes reads back. -/
theorem basicFrom_flatMap (done cs rest : List Char) :
    basicFrom done (cs.flatMap escapeText ++ '"' :: rest) = some (done.reverse ++ cs, rest) := by
  induction cs generalizing done with
  | nil =>
    rw [List.flatMap_nil, List.nil_append, basicFrom, List.append_nil]
  | cons c cs ih =>
    have hdone : (c :: done).reverse ++ cs = done.reverse ++ c :: cs := by simp
    rw [List.flatMap_cons, List.append_assoc]
    rcases escapeText_cases c with ⟨code, hcode, hescapes⟩ | ⟨hself, hquote, hbackslash, hline⟩
    · rw [hcode, List.cons_append, basicFrom_escape (hescapes.escape _), ih, hdone]
    · rw [hself, List.singleton_append, basicFrom_char hquote hbackslash hline, ih, hdone]

/-! ### Basic strings over several lines -/

theorem basicLinesFrom_newline (done rest : List Char) :
    basicLinesFrom done ('\n' :: rest) = basicLinesFrom ('\n' :: done) rest := by
  rw [basicLinesFrom]

theorem basicLinesFrom_escape {done cs rest : List Char} {c : Char} (hjoin : joinedLine? cs = none)
    (h : escape? cs = some (c, rest)) :
    basicLinesFrom done ('\\' :: cs) = basicLinesFrom (c :: done) rest := by
  rw [basicLinesFrom]
  split
  · simp_all
  · split <;> simp_all

theorem basicLinesFrom_char {done rest : List Char} {c : Char} (hquote : c ≠ '"')
    (hbackslash : c ≠ '\\') (hline : isLineChar c = true) :
    basicLinesFrom done (c :: rest) = basicLinesFrom (c :: done) rest := by
  rw [basicLinesFrom, if_pos hline]
  · exact fun _ h => absurd h hquote
  · exact fun _ h => absurd h hquote
  · exact fun _ h => absurd h hquote
  · rintro rfl
    exact absurd hline (by decide)
  · rintro _ rfl
    exact absurd hline (by decide)
  · exact hbackslash

/-- A quote that is not the first of three is read as itself. -/
theorem basicLinesFrom_quote {done rest : List Char} (h : ¬['"', '"'] <+: rest) :
    basicLinesFrom done ('"' :: rest) = basicLinesFrom ('"' :: done) rest := by
  have hne : ∀ more, rest ≠ '"' :: '"' :: more := by
    rintro more rfl
    exact h ⟨more, rfl⟩
  rw [basicLinesFrom, if_pos (by decide)]
  · exact fun _ _ => hne _
  · exact fun _ _ => hne _
  · exact fun _ _ => hne _
  · decide
  · exact fun _ hcr => absurd hcr (by decide)
  · decide

/-- Up to two quotes in front of the closing ones belong to the string. -/
theorem basicLinesFrom_close {done rest : List Char} (h : rest.head? ≠ some '"') :
    basicLinesFrom done ('"' :: '"' :: '"' :: rest) = some (done.reverse, rest) ∧
      basicLinesFrom done ('"' :: '"' :: '"' :: '"' :: rest) =
        some (done.reverse ++ ['"'], rest) ∧
      basicLinesFrom done ('"' :: '"' :: '"' :: '"' :: '"' :: rest) =
        some (done.reverse ++ ['"', '"'], rest) := by
  have hne : ∀ more, rest ≠ '"' :: more := by
    rintro more rfl
    exact h rfl
  refine ⟨?_, ?_, ?_⟩
  · rw [basicLinesFrom]
    · exact fun _ => hne _
    · exact fun _ => hne _
  · rw [basicLinesFrom, List.reverse_cons]
    exact fun _ => hne _
  · rw [basicLinesFrom, List.reverse_cons, List.reverse_cons, List.append_assoc,
      List.singleton_append]

theorem linesText_char (run : Nat) {c : Char} (cs : List Char) (hnewline : c ≠ '\n')
    (hquote : c ≠ '"') : linesText run (c :: cs) = escapeText c ++ linesText 0 cs := by
  rw [linesText]
  · exact hnewline
  · exact hquote

/-- A quote is not written as itself behind two others, and no other character begins with
one. -/
theorem head?_linesText_ne_quote {run : Nat} {cs : List Char}
    (h : 2 ≤ run ∨ cs.head? ≠ some '"') : (linesText run cs).head? ≠ some '"' := by
  cases cs with
  | nil => simp [linesText]
  | cons c cs =>
    by_cases hquote : c = '"'
    · subst hquote
      have hrun : 2 ≤ run := h.resolve_right (by simp)
      rw [linesText, if_pos hrun]
      simp
    · by_cases hnewline : c = '\n'
      · subst hnewline
        rw [linesText]
        simp
      · rw [linesText_char run cs hnewline hquote,
          List.head?_append_of_ne_nil _ (escapeText_ne_nil c)]
        exact head?_escapeText_ne_quote c

theorem linesText_ne_nil (run : Nat) {cs : List Char} (h : cs ≠ []) : linesText run cs ≠ [] := by
  cases cs with
  | nil => exact absurd rfl h
  | cons c cs =>
    unfold linesText
    split
    · exact absurd ‹_› (by simp)
    · simp
    · split <;> simp
    · simp [escapeText_ne_nil]

/-- Behind a quote that is written as itself no two others follow, unless the string ends
with them. -/
theorem not_prefix_linesText {run : Nat} {cs : List Char} (hrun : 1 ≤ run) (hcs : cs ≠ [])
    (hlast : run = 1 → cs ≠ ['"']) (more : List Char) :
    ¬['"', '"'] <+: linesText run cs ++ more := by
  have hhead : ∀ {run cs}, cs ≠ [] → (2 ≤ run ∨ cs.head? ≠ some '"') →
      (linesText run cs ++ more).head? ≠ some '"' := by
    intro run cs hcs h
    rw [List.head?_append_of_ne_nil _ (linesText_ne_nil run hcs)]
    exact head?_linesText_ne_quote h
  rintro ⟨rest, heq⟩
  have hfirst : (linesText run cs ++ more).head? = some '"' := by rw [← heq]; rfl
  by_cases h : 2 ≤ run ∨ cs.head? ≠ some '"'
  · exact hhead hcs h hfirst
  · rw [not_or, not_not] at h
    obtain ⟨cs, rfl⟩ : ∃ cs', cs = '"' :: cs' := ⟨_, (List.cons_head?_tail h.2).symm⟩
    rw [linesText, if_neg h.1] at heq
    have htail : '"' :: rest = linesText (run + 1) cs ++ more := (List.cons.inj heq).2
    have hsecond : (linesText (run + 1) cs ++ more).head? = some '"' := by rw [← htail]; rfl
    have hnil : cs ≠ [] := fun hnil => hlast (by omega) (by rw [hnil])
    exact hhead hnil (.inl (by omega)) hsecond

/-- What stands between tripled double quotes reads back as the string. -/
theorem basicLinesFrom_linesText (done : List Char) (run : Nat) (cs : List Char) {rest : List Char}
    (h : rest.head? ≠ some '"') :
    basicLinesFrom done (linesText run cs ++ '"' :: '"' :: '"' :: rest) =
      some (done.reverse ++ cs, rest) := by
  -- `run` counts the quotes just read, so that a third one is written with a backslash
  induction cs generalizing done run with
  | nil =>
    rw [linesText, List.nil_append, (basicLinesFrom_close h).1, List.append_nil]
  | cons c cs ih =>
    have hdone : (c :: done).reverse ++ cs = done.reverse ++ c :: cs := by simp
    by_cases hquote : c = '"'
    · subst hquote
      by_cases hrun : 2 ≤ run
      · rw [linesText, if_pos hrun, List.cons_append, List.cons_append,
          basicLinesFrom_escape rfl rfl, ih, hdone]
      · rw [linesText, if_neg hrun, List.cons_append]
        -- quotes at the very end are read together with the closing ones
        by_cases hnil : cs = []
        · rw [hnil, linesText, List.nil_append, (basicLinesFrom_close h).2.1]
        · by_cases hlast : run = 0 ∧ cs = ['"']
          · rw [hlast.1, hlast.2, linesText, if_neg (by decide)]
            exact (basicLinesFrom_close h).2.2
          · have hprefix : ¬['"', '"'] <+: linesText (run + 1) cs ++ '"' :: '"' :: '"' :: rest :=
              not_prefix_linesText (by omega) hnil (fun hone hcs => hlast ⟨by omega, hcs⟩) _
            rw [basicLinesFrom_quote hprefix, ih, hdone]
    · by_cases hnewline : c = '\n'
      · subst hnewline
        rw [linesText, List.cons_append, basicLinesFrom_newline, ih, hdone]
      · rw [linesText_char run cs hnewline hquote, List.append_assoc]
        rcases escapeText_cases c with ⟨code, hcode, hescapes⟩ | ⟨hself, -, hbackslash, hline⟩
        · rw [hcode, List.cons_append,
            basicLinesFrom_escape (hescapes.notJoined _) (hescapes.escape _), ih, hdone]
        · rw [hself, List.singleton_append, basicLinesFrom_char hquote hbackslash hline, ih, hdone]

/-! ### Runs of a character -/

theorem max_le_longestRun (x : Char) (here longest : Nat) (cs : List Char) :
    max here longest ≤ longestRun x here longest cs := by
  induction cs generalizing here longest with
  | nil => exact Nat.le_refl _
  | cons c cs ih =>
    rw [longestRun]
    split
    · have := ih (here + 1) longest
      omega
    · have := ih 0 (max here longest)
      omega

theorem le_longestRun_of_isPrefix {x : Char} {k : Nat} {cs : List Char}
    (h : List.replicate k x <+: cs) (here longest : Nat) :
    here + k ≤ longestRun x here longest cs := by
  induction k generalizing here cs with
  | zero =>
    have := max_le_longestRun x here longest cs
    omega
  | succ k ih =>
    obtain ⟨rest, rfl⟩ := h
    rw [List.replicate_succ, List.cons_append, longestRun, if_pos rfl]
    have := ih (List.prefix_append (List.replicate k x) rest) (here + 1)
    omega

/-- No run of a character is longer than the longest one. -/
theorem le_longestRun_of_isInfix {x : Char} {k : Nat} {cs : List Char}
    (h : List.replicate k x <:+: cs) (here longest : Nat) :
    k ≤ longestRun x here longest cs := by
  induction cs generalizing here longest with
  | nil =>
    have hk : k = 0 := by simpa using h
    omega
  | cons c cs ih =>
    rcases List.infix_cons_iff.mp h with hprefix | hinfix
    · have := le_longestRun_of_isPrefix hprefix here longest
      omega
    · rw [longestRun]
      split
      · exact ih hinfix _ _
      · exact ih hinfix _ _

/-! ### Literal strings -/

/-- A string without quotes stands for itself between them. -/
theorem literalFrom_append (done : List Char) {cs : List Char}
    (hline : ∀ c ∈ cs, isLineChar c = true) (hquote : '\'' ∉ cs) (rest : List Char) :
    literalFrom done (cs ++ '\'' :: rest) = some (done.reverse ++ cs, rest) := by
  induction cs generalizing done with
  | nil => rw [List.nil_append, literalFrom, List.append_nil]
  | cons c cs ih =>
    rw [List.mem_cons, not_or] at hquote
    rw [List.cons_append, literalFrom, if_pos (hline c List.mem_cons_self),
      ih _ (fun d hd => hline d (List.mem_cons_of_mem _ hd)) hquote.2, List.reverse_cons,
      List.append_assoc, List.singleton_append]
    exact fun heq => hquote.1 heq.symm

/-- A quote that is not the first of three is read as itself. -/
theorem literalLinesFrom_quote {done rest : List Char} (h : ¬['\'', '\''] <+: rest) :
    literalLinesFrom done ('\'' :: rest) = literalLinesFrom ('\'' :: done) rest := by
  have hne : ∀ more, rest ≠ '\'' :: '\'' :: more := by
    rintro more rfl
    exact h ⟨more, rfl⟩
  rw [literalLinesFrom, if_pos (by decide)]
  · exact fun _ _ => hne _
  · exact fun _ _ => hne _
  · exact fun _ _ => hne _
  · decide
  · exact fun _ hcr => absurd hcr (by decide)

/-- A string without three quotes in a row stands for itself between tripled ones. -/
theorem literalLinesFrom_append (done : List Char) {cs : List Char}
    (hline : ∀ c ∈ cs, c = '\n' ∨ isLineChar c = true)
    (hquotes : ¬List.replicate 3 '\'' <:+: cs) {rest : List Char} (h : rest.head? ≠ some '\'') :
    literalLinesFrom done (cs ++ '\'' :: '\'' :: '\'' :: rest) =
      some (done.reverse ++ cs, rest) := by
  have hne : ∀ more, rest ≠ '\'' :: more := by
    rintro more rfl
    exact h rfl
  induction cs generalizing done with
  | nil =>
    rw [List.nil_append, literalLinesFrom, List.append_nil]
    · exact fun _ => hne _
    · exact fun _ => hne _
  | cons c cs ih =>
    have hdone : (c :: done).reverse ++ cs = done.reverse ++ c :: cs := by simp
    have htail := ih (c :: done) (fun d hd => hline d (List.mem_cons_of_mem _ hd))
      fun hinfix => hquotes (List.infix_cons hinfix)
    by_cases hquote : c = '\''
    · subst hquote
      match cs with
      -- quotes at the very end are read together with the closing ones
      | [] =>
        rw [List.singleton_append, literalLinesFrom, List.reverse_cons]
        exact fun _ => hne _
      | [d] =>
        by_cases hd : d = '\''
        · subst hd
          rw [List.cons_append, List.singleton_append, literalLinesFrom, List.reverse_cons,
            List.reverse_cons, List.append_assoc, List.singleton_append]
        · have hprefix : ¬['\'', '\''] <+: [d] ++ '\'' :: '\'' :: '\'' :: rest := by
            rintro ⟨more, heq⟩
            exact hd (List.cons.inj heq).1.symm
          rw [List.cons_append, literalLinesFrom_quote hprefix, htail, hdone]
      | d :: e :: cs =>
        have hprefix : ¬['\'', '\''] <+: d :: e :: cs ++ '\'' :: '\'' :: '\'' :: rest := by
          rintro ⟨more, heq⟩
          obtain ⟨rfl, hsecond⟩ := List.cons.inj heq
          obtain ⟨rfl, -⟩ := List.cons.inj hsecond
          exact hquotes (List.prefix_append ['\'', '\'', '\''] cs).isInfix
        rw [List.cons_append, literalLinesFrom_quote hprefix, htail, hdone]
    · rcases hline c List.mem_cons_self with rfl | hc
      · rw [List.cons_append, literalLinesFrom, htail, hdone]
      · rw [List.cons_append, literalLinesFrom, if_pos hc, htail, hdone]
        · exact fun _ heq => absurd heq hquote
        · exact fun _ heq => absurd heq hquote
        · exact fun _ heq => absurd heq hquote
        · rintro rfl
          exact absurd hc (by decide)
        · rintro _ rfl
          exact absurd hc (by decide)

/-! ### The form of a string -/

theorem isLineChar_of_not_isControl {c : Char} (h : ¬isControl c = true) :
    c = '\n' ∨ isLineChar c = true := by
  by_cases hnewline : c = '\n'
  · exact .inl hnewline
  · right
    by_cases htab : c = '\t'
    · simp [isLineChar, htab]
    · simpa [isControl, isLineChar, htab, hnewline, Nat.not_lt] using h

/-- Single quotes on one line hold neither control characters nor single quotes. -/
theorem of_form_literal {cs : List Char} (h : (StringTraits.of cs).form = .literal) :
    (∀ c ∈ cs, isLineChar c = true) ∧ '\'' ∉ cs := by
  unfold StringTraits.form at h
  split_ifs at h with h₁ h₂
  simp only [StringTraits.of, Bool.and_eq_true, Bool.not_eq_true', List.any_eq_false,
    beq_iff_eq] at h₂
  obtain ⟨⟨hcontrol, hrun⟩, hnewline⟩ := h₂
  constructor
  · intro c hc
    exact (isLineChar_of_not_isControl (hcontrol c hc)).resolve_left (hnewline c hc)
  · intro hmem
    obtain ⟨before, after, rfl⟩ := List.append_of_mem hmem
    have hone : List.replicate 1 '\'' <:+: before ++ '\'' :: after :=
      ⟨before, after, by simp⟩
    have := le_longestRun_of_isInfix hone 0 0
    omega

/-- Tripled single quotes hold no control characters, and no three single quotes in a row. -/
theorem of_form_literalLines {cs : List Char}
    (h : (StringTraits.of cs).form = .literalLines) :
    (∀ c ∈ cs, c = '\n' ∨ isLineChar c = true) ∧ ¬List.replicate 3 '\'' <:+: cs := by
  unfold StringTraits.form at h
  split_ifs at h with h₁ h₂ h₃ h₄
  simp only [StringTraits.of, Bool.and_eq_true, Bool.not_eq_true', List.any_eq_false] at h₄
  constructor
  · exact fun c hc => isLineChar_of_not_isControl (h₄.1 c hc)
  · intro hinfix
    have := le_longestRun_of_isInfix hinfix 0 0
    have := of_decide_eq_true h₄.2
    omega

/-! ### Any form -/

theorem skipLineEnd_cons {c : Char} (h : isLineChar c = true) (rest : List Char) :
    skipLineEnd (c :: rest) = c :: rest := by
  have hnewline : c ≠ '\n' := Text.ne_of_kind h (by decide)
  have hreturn : c ≠ '\r' := Text.ne_of_kind h (by decide)
  have hnone : lineEnd? (c :: rest) = none := by
    rw [lineEnd?]
    · exact fun _ heq => hnewline (List.cons.inj heq).1
    · exact fun _ heq => hreturn (List.cons.inj heq).1
  rw [skipLineEnd, hnone, Option.getD_none]

/-- The line feed behind the opening quotes, and nothing else, is skipped. -/
theorem skipLineEnd_opening {cs body : List Char} {q : Char} (hq : isLineChar q = true)
    (h : '\n' ∉ cs → ∀ c ∈ body.head?, isLineChar c = true) (rest : List Char) :
    skipLineEnd (opening (StringTraits.of cs) ++ (body ++ q :: rest)) = body ++ q :: rest := by
  by_cases hmem : '\n' ∈ cs
  · have hopening : opening (StringTraits.of cs) = ['\n'] := by
      simp [opening, StringTraits.of, hmem]
    rw [hopening]
    rfl
  · have hopening : opening (StringTraits.of cs) = [] := by
      simp [opening, StringTraits.of, hmem]
    rw [hopening, List.nil_append]
    cases body with
    | nil => exact skipLineEnd_cons hq rest
    | cons c body => exact skipLineEnd_cons (h hmem c (by simp)) _

/-- A string between tripled double quotes does not begin with a line feed, unless it has one. -/
theorem isLineChar_head?_linesText {cs : List Char} (h : '\n' ∉ cs) :
    ∀ c ∈ (linesText 0 cs).head?, isLineChar c = true := by
  cases cs with
  | nil => simp [linesText]
  | cons c cs =>
    have hnewline : c ≠ '\n' := fun heq => h (heq ▸ List.mem_cons_self)
    by_cases hquote : c = '"'
    · subst hquote
      rw [linesText, if_neg (by decide)]
      exact Text.forall_mem_head?_cons (by decide) _
    · rw [linesText_char 0 cs hnewline hquote, List.head?_append_of_ne_nil _ (escapeText_ne_nil c)]
      rcases escapeText_cases c with ⟨code, hcode, -⟩ | ⟨hself, -, -, hline⟩
      · rw [hcode]
        exact Text.forall_mem_head?_cons (by decide) _
      · rw [hself]
        exact Text.forall_mem_head?_cons hline _

/-- Quotes around a text on one line are not followed by two others, even if the text is
empty. -/
theorem not_prefix_of_head {q : Char} {body rest : List Char} (hbody : body.head? ≠ some q)
    (hrest : rest.head? ≠ some q) : ¬[q, q] <+: body ++ q :: rest := by
  rintro ⟨more, heq⟩
  cases body with
  | nil =>
    have htail : q :: more = rest := (List.cons.inj heq).2
    exact hrest (by rw [← htail]; rfl)
  | cons c body => exact hbody (by rw [(List.cons.inj heq).1]; rfl)

theorem text?_basic {cs : List Char} (h : ¬['"', '"'] <+: cs) :
    text? ('"' :: cs) = basicFrom [] cs := by
  rw [text?, shortText?]
  · rintro rest heq
    exact h ⟨rest, (List.cons.inj heq).2.symm⟩
  · exact fun _ heq => absurd (List.cons.inj heq).1 (by decide)

theorem text?_literal {cs : List Char} (h : ¬['\'', '\''] <+: cs) :
    text? ('\'' :: cs) = literalFrom [] cs := by
  rw [text?, shortText?]
  · exact fun _ heq => absurd (List.cons.inj heq).1 (by decide)
  · rintro rest heq
    exact h ⟨rest, (List.cons.inj heq).2.symm⟩

/-- A written string reads back, whatever form it has. -/
theorem text?_quoted (cs : List Char) {rest : List Char} (hdouble : rest.head? ≠ some '"')
    (hsingle : rest.head? ≠ some '\'') : text? (quoted cs ++ rest) = some (cs, rest) := by
  unfold quoted
  simp only
  split
  · have hhead : (cs.flatMap escapeText).head? ≠ some '"' := by
      cases cs with
      | nil => simp
      | cons c cs =>
        rw [List.flatMap_cons, List.head?_append_of_ne_nil _ (escapeText_ne_nil c)]
        exact head?_escapeText_ne_quote c
    rw [List.cons_append, List.cons_append, List.append_assoc, List.singleton_append,
      text?_basic (not_prefix_of_head hhead hdouble), basicFrom_flatMap]
    rfl
  · next hform =>
    obtain ⟨hline, hquote⟩ := of_form_literal hform
    have hhead : cs.head? ≠ some '\'' := fun hhead => hquote (List.mem_of_head? hhead)
    rw [List.cons_append, List.cons_append, List.append_assoc, List.singleton_append,
      text?_literal (not_prefix_of_head hhead hsingle), literalFrom_append [] hline hquote]
    rfl
  · have hread := basicLinesFrom_linesText [] 0 cs hdouble
    rw [← skipLineEnd_opening (by decide) isLineChar_head?_linesText] at hread
    simp only [List.append_assoc]
    exact hread
  · next hform =>
    obtain ⟨hline, hquotes⟩ := of_form_literalLines hform
    have hread := literalLinesFrom_append [] hline hquotes hsingle
    rw [← skipLineEnd_opening (by decide)
      fun hnewline c hc => (hline c (List.mem_of_head? hc)).resolve_left fun heq =>
        hnewline (heq ▸ List.mem_of_head? hc)] at hread
    simp only [List.append_assoc]
    exact hread

end NearbyBeacons.Toml
