import NearbyBeacons.Json.Token
import NearbyBeacons.Proofs.Text.Run
/-!
# Tokens wherever they stand

What a token is read from is read as that token before any other text (`token?_append`). Two
tokens look ahead: a number goes on as long as it can, and half of a surrogate pair takes the
other half that follows it.
-/

namespace NearbyBeacons.Json

/-! ### Numbers -/

/-- A text before which a number ends. -/
def EndsNumber (cs : List Char) : Prop :=
  ∀ c ∈ cs.head?, c.isDigit = false ∧ c ≠ '.' ∧ c ≠ 'e' ∧ c ≠ 'E'

theorem endsNumber_nil : EndsNumber [] := nofun

theorem endsNumber_cons {c : Char} (h : c.isDigit = false ∧ c ≠ '.' ∧ c ≠ 'e' ∧ c ≠ 'E')
    (cs : List Char) : EndsNumber (c :: cs) := by
  intro d hd
  rwa [← Option.some.inj hd]

theorem isDigit_of_mem_takeWhile {cs : List Char} :
    ∀ c ∈ cs.takeWhile Char.isDigit, c.isDigit = true := fun _ => List.mem_takeWhile_imp

/-- A run of digits is read up to a character that is none. -/
theorem wholeDigits?_append {cs run rest : List Char} (h : wholeDigits? cs = some (run, rest)) :
    cs = run ++ rest ∧ run ≠ [] ∧ (∀ c ∈ run, c.isDigit = true) ∧
      ∀ rest', (∀ c ∈ rest'.head?, c.isDigit = false) →
        wholeDigits? (run ++ rest') = some (run, rest') := by
  unfold wholeDigits? at h
  split at h
  · cases h
  · cases h
  · next hne hzero =>
    cases h
    refine ⟨List.takeWhile_append_dropWhile.symm, hne, isDigit_of_mem_takeWhile, ?_⟩
    intro rest' hrest'
    unfold wholeDigits?
    rw [Text.takeWhile_run isDigit_of_mem_takeWhile hrest',
      Text.dropWhile_run isDigit_of_mem_takeWhile hrest']
    split
    · next hnil => exact absurd hnil hne
    · next heq => exact absurd heq (hzero _ _)
    · rfl

/-- A fraction is taken with its point, up to what is neither a digit nor a point. -/
theorem fractionDigits?_append {cs run rest : List Char}
    (h : fractionDigits? cs = some (run, rest)) : ∃ l, cs = l ++ rest ∧
      (∀ c ∈ l.head?, c = '.') ∧ ∀ rest', (∀ c ∈ rest'.head?, c.isDigit = false ∧ c ≠ '.') →
        fractionDigits? (l ++ rest') = some (run, rest') := by
  unfold fractionDigits? at h
  split at h
  · next r =>
    split at h
    · cases h
    · next hne =>
      cases h
      refine ⟨'.' :: r.takeWhile Char.isDigit, ?_, fun c hc => (Option.some.inj hc).symm, ?_⟩
      · rw [List.cons_append, List.takeWhile_append_dropWhile]
      · intro rest' hrest'
        have hdigit : ∀ c ∈ rest'.head?, c.isDigit = false := fun c hc => (hrest' c hc).1
        rw [List.cons_append, fractionDigits?, Text.takeWhile_run isDigit_of_mem_takeWhile hdigit,
          Text.dropWhile_run isDigit_of_mem_takeWhile hdigit]
        split
        · next hnil => exact absurd hnil hne
        · rfl
  · cases h
    refine ⟨[], rfl, nofun, fun rest' hrest' => ?_⟩
    rw [List.nil_append, fractionDigits?]
    rintro r rfl
    obtain ⟨-, hmark⟩ := hrest' '.' rfl
    exact hmark rfl

theorem exponentDigits?_append {negative : Bool} {cs rest : List Char} {e : Option Int}
    (h : exponentDigits? negative cs = some (e, rest)) : ∃ run, cs = run ++ rest ∧ run ≠ [] ∧
      (∀ c ∈ run, c.isDigit = true) ∧ ∀ rest', (∀ c ∈ rest'.head?, c.isDigit = false) →
        exponentDigits? negative (run ++ rest') = some (e, rest') := by
  unfold exponentDigits? at h
  split at h
  · cases h
  · next hne =>
    cases h
    refine ⟨cs.takeWhile Char.isDigit, List.takeWhile_append_dropWhile.symm, hne,
      isDigit_of_mem_takeWhile, fun rest' hrest' => ?_⟩
    unfold exponentDigits?
    rw [Text.takeWhile_run isDigit_of_mem_takeWhile hrest',
      Text.dropWhile_run isDigit_of_mem_takeWhile hrest']
    split
    · next hnil => exact absurd hnil hne
    · rfl

/-- An exponent is taken with its mark, up to what ends a number. -/
theorem exponent?_append {cs rest : List Char} {e : Option Int}
    (h : exponent? cs = some (e, rest)) : ∃ l, cs = l ++ rest ∧
      (∀ c ∈ l.head?, c = 'e' ∨ c = 'E') ∧ ∀ rest', EndsNumber rest' →
        exponent? (l ++ rest') = some (e, rest') := by
  have hdigit : ∀ {rest'}, EndsNumber rest' → ∀ c ∈ rest'.head?, c.isDigit = false :=
    fun hrest' c hc => (hrest' c hc).1
  unfold exponent? at h
  split at h
  case h_1 | h_2 | h_3 | h_4 =>
    -- a mark and a sign
    obtain ⟨run, rfl, -, -, hread⟩ := exponentDigits?_append h
    exact ⟨_ :: _ :: run, rfl, by simp, fun rest' hrest' => hread rest' (hdigit hrest')⟩
  case h_5 | h_6 =>
    obtain ⟨run, rfl, hne, hrun, hread⟩ := exponentDigits?_append h
    refine ⟨_ :: run, rfl, by simp, fun rest' hrest' => ?_⟩
    rw [List.cons_append, exponent?]
    · exact hread rest' (hdigit hrest')
    -- a run of digits does not begin with a sign
    · exact Text.run_ne_cons hne hrun (by decide)
    · exact Text.run_ne_cons hne hrun (by decide)
  case h_7 =>
    -- no exponent, and none begins in the other text either
    cases h
    refine ⟨[], rfl, nofun, fun rest' hrest' => ?_⟩
    have hlower : ∀ r, rest' ≠ 'e' :: r := by
      rintro r rfl
      obtain ⟨-, -, hmark, -⟩ := hrest' 'e' rfl
      exact hmark rfl
    have hupper : ∀ r, rest' ≠ 'E' :: r := by
      rintro r rfl
      obtain ⟨-, -, -, hmark⟩ := hrest' 'E' rfl
      exact hmark rfl
    rw [List.nil_append, exponent?]
    all_goals first | exact fun r => hlower _ | exact fun r => hupper _

/-- A number is read as the same number before any text that it ends before. -/
theorem magnitude?_append {negative : Bool} {cs rest : List Char} {n : Numeral}
    (h : magnitude? negative cs = some (n, rest)) : ∃ l, cs = l ++ rest ∧
      (∃ c l', l = c :: l' ∧ c.isDigit = true) ∧ ∀ rest', EndsNumber rest' →
        magnitude? negative (l ++ rest') = some (n, rest') := by
  simp only [magnitude?, Option.bind_eq_bind, Option.bind_eq_some_iff] at h
  obtain ⟨⟨whole, r₁⟩, h₁, ⟨fraction, r₂⟩, h₂, ⟨exponent, r₃⟩, h₃, heq⟩ := h
  cases heq
  obtain ⟨rfl, hne, hdigits, hwhole⟩ := wholeDigits?_append h₁
  obtain ⟨lf, rfl, hpoint, hfraction⟩ := fractionDigits?_append h₂
  obtain ⟨le, rfl, hmark, hexponent⟩ := exponent?_append h₃
  obtain ⟨c, whole, rfl⟩ := List.exists_cons_of_ne_nil hne
  refine ⟨c :: whole ++ (lf ++ le), by simp, ⟨c, _, rfl, hdigits c List.mem_cons_self⟩,
    fun rest' hrest' => ?_⟩
  -- each part ends where the next one begins
  have hexponent' : ∀ c ∈ (le ++ rest').head?, c.isDigit = false ∧ c ≠ '.' := by
    intro c hc
    cases le with
    | nil => exact ⟨(hrest' c hc).1, (hrest' c hc).2.1⟩
    | cons d le =>
      rw [← Option.some.inj hc]
      rcases hmark d rfl with rfl | rfl <;> decide
  have hfraction' : ∀ c ∈ (lf ++ (le ++ rest')).head?, c.isDigit = false := by
    intro c hc
    cases lf with
    | nil => exact (hexponent' c hc).1
    | cons d lf =>
      rw [← Option.some.inj hc, hpoint d rfl]
      decide
  have hassoc : c :: whole ++ (lf ++ le) ++ rest' = c :: whole ++ (lf ++ (le ++ rest')) := by simp
  rw [magnitude?, hassoc, hwhole _ hfraction']
  simp only [Option.bind_eq_bind, Option.bind_some, hfraction _ hexponent', hexponent _ hrest']

theorem numeral?_append {cs rest : List Char} {n : Numeral} (h : numeral? cs = some (n, rest)) :
    ∃ l, cs = l ++ rest ∧ (∃ c l', l = c :: l' ∧ (c = '-' ∨ c.isDigit = true)) ∧
      ∀ rest', EndsNumber rest' → numeral? (l ++ rest') = some (n, rest') := by
  unfold numeral? at h
  split at h
  · obtain ⟨l, rfl, -, hread⟩ := magnitude?_append h
    exact ⟨'-' :: l, rfl, ⟨'-', l, rfl, .inl rfl⟩, hread⟩
  · obtain ⟨l, rfl, ⟨c, l, rfl, hc⟩, hread⟩ := magnitude?_append h
    refine ⟨c :: l, rfl, ⟨c, l, rfl, .inr hc⟩, fun rest' hrest' => ?_⟩
    rw [List.cons_append, numeral?, ← List.cons_append, hread rest' hrest']
    intro _ heq
    exact Text.ne_of_kind hc (by decide) (List.cons.inj heq).1

/-! ### Strings -/

/-- The second half of a pair is known from its own escape. -/
theorem lowSurrogate?_append {cs rest : List Char} {n : Nat}
    (h : lowSurrogate? cs = some (n, rest)) :
    ∃ l, cs = l ++ rest ∧ ∀ rest', lowSurrogate? (l ++ rest') = some (n, rest') := by
  unfold lowSurrogate? at h
  split at h
  · next a b c d r =>
    split at h
    · next code hcode =>
      split at h
      · next hlow =>
        cases h
        refine ⟨['\\', 'u', a, b, c, d], rfl, fun rest' => ?_⟩
        simp only [List.cons_append, List.nil_append, lowSurrogate?, hcode]
        exact if_pos hlow
      · cases h
    · cases h
  · cases h

/-- Whether a low surrogate comes next, which half of a pair looks at. -/
def StartsLow (cs : List Char) : Prop := (lowSurrogate? cs).isSome = true

/-- Six characters of an escape decide. -/
theorem startsLow_escape (a b c d : Char) (rest rest' : List Char) :
    StartsLow ('\\' :: 'u' :: a :: b :: c :: d :: rest) ↔
      StartsLow ('\\' :: 'u' :: a :: b :: c :: d :: rest') := by
  simp only [StartsLow, lowSurrogate?]
  split
  · split <;> rfl
  · rfl

theorem not_startsLow {cs : List Char} (h : ∀ r, cs ≠ '\\' :: 'u' :: r) : ¬StartsLow cs := by
  rw [StartsLow, lowSurrogate?]
  · exact Bool.false_ne_true
  · exact fun _ _ _ _ _ => h _

theorem unitPart_append {n : Nat} {cs rest : List Char} {p : Part}
    (h : unitPart n cs = (p, rest)) : ∃ l, cs = l ++ rest ∧
      ∀ rest', (StartsLow rest' ↔ StartsLow rest) → unitPart n (l ++ rest') = (p, rest') := by
  unfold unitPart at h
  split at h
  · next hhigh =>
    split at h
    · next hlow =>
      cases h
      obtain ⟨l, rfl, hread⟩ := lowSurrogate?_append hlow
      refine ⟨l, rfl, fun rest' _ => ?_⟩
      rw [unitPart, if_pos hhigh, hread]
    · next hnone =>
      cases h
      refine ⟨[], rfl, fun rest' hrest' => ?_⟩
      -- a half that stands alone must not find its other half
      have hnone' : lowSurrogate? rest' = none := by
        rw [StartsLow, StartsLow, hnone] at hrest'
        simpa using hrest'
      rw [List.nil_append, unitPart, if_pos hhigh, hnone']
  · next hhigh =>
    refine ⟨[], ?_, fun rest' _ => ?_⟩
    · split at h <;> exact (Prod.mk.inj h).2
    · rw [List.nil_append, unitPart, if_neg hhigh]
      split at h
      · next hlow =>
        rw [if_pos hlow, (Prod.mk.inj h).1]
      · next hlow =>
        rw [if_neg hlow, (Prod.mk.inj h).1]

/-- A part is read as the same part before any text that starts with a low surrogate if and only
if the text after it does. -/
theorem part?_append {cs rest : List Char} {p : Part} (h : part? cs = some (p, rest)) :
    ∃ l, cs = l ++ rest ∧ ∀ rest', (StartsLow rest' ↔ StartsLow rest) →
      part? (l ++ rest') = some (p, rest') ∧ (StartsLow (l ++ rest') ↔ StartsLow (l ++ rest)) := by
  unfold part? at h
  split at h
  case h_1 | h_2 | h_3 | h_4 | h_5 | h_6 | h_7 | h_8 =>
    cases h
    refine ⟨['\\', _], rfl, fun rest' _ => ⟨rfl, ?_⟩⟩
    exact iff_of_false (not_startsLow (by simp)) (not_startsLow (by simp))
  case h_9 a b c d r =>
    obtain ⟨n, hn, hpart⟩ := Option.map_eq_some_iff.mp h
    obtain ⟨l, rfl, hread⟩ := unitPart_append hpart
    refine ⟨'\\' :: 'u' :: a :: b :: c :: d :: l, rfl,
      fun rest' hrest' => ⟨?_, startsLow_escape a b c d _ _⟩⟩
    show (codeUnit? a b c d).map (fun n => unitPart n (l ++ rest')) = _
    rw [hn, Option.map_some, hread rest' hrest']
  case h_10 => cases h
  case h_11 => cases h
  case h_12 c r _ _ _ _ _ _ _ _ _ hback _ =>
    split at h
    · cases h
    · next hcontrol =>
      cases h
      have hstart : ∀ r, ¬StartsLow (c :: r) := fun r =>
        not_startsLow fun _ heq => hback (List.cons.inj heq).1
      refine ⟨[c], rfl, fun rest' _ => ⟨?_, iff_of_false (hstart _) (hstart _)⟩⟩
      rw [List.singleton_append, part?, if_neg hcontrol]
      -- no escape begins with this character
      all_goals
        intros
        contradiction
  case h_13 => cases h

/-- The characters so far, the last first, and whether they are whole, after one more part. -/
def Part.addTo (done : List Char) (whole : Bool) : Part → List Char × Bool
  | char c => (c :: done, whole)
  | half => (done, false)

theorem stringFrom_part {done : List Char} {whole : Bool} {cs rest : List Char} {p : Part}
    (h : part? cs = some (p, rest)) : stringFrom done whole cs =
      stringFrom (p.addTo done whole).1 (p.addTo done whole).2 rest := by
  rw [stringFrom]
  · split
    · next hnone => simp [h] at hnone
    · next c r hsome =>
      rw [h] at hsome
      cases hsome
      rfl
    · next r hsome =>
      rw [h] at hsome
      cases hsome
      rfl
  · rintro r rfl
    simp [part?] at h

/-- A string is read as the same string before any text. -/
theorem stringFrom_append {done : List Char} {whole : Bool} {cs rest : List Char}
    {s : Option String} (h : stringFrom done whole cs = some (s, rest)) :
    ∃ l, cs = l ++ rest ∧ ∀ rest', stringFrom done whole (l ++ rest') = some (s, rest') ∧
      (StartsLow (l ++ rest') ↔ StartsLow (l ++ rest)) := by
  fun_induction stringFrom done whole cs with
  | case1 done whole r =>
    cases h
    refine ⟨['"'], rfl, fun rest' => ⟨by rw [List.singleton_append, stringFrom], ?_⟩⟩
    exact iff_of_false (not_startsLow (by simp)) (not_startsLow (by simp))
  | case2 => cases h
  | case3 done whole cs _ c r hpart ih | case4 done whole cs _ r hpart ih =>
    obtain ⟨l, rfl, hread⟩ := ih h
    obtain ⟨l', rfl, hread'⟩ := part?_append hpart
    -- what follows the part is the same string, so it starts with the same half or with none
    refine ⟨l' ++ l, (List.append_assoc _ _ _).symm, fun rest' => ?_⟩
    obtain ⟨hpart', hlow⟩ := hread' (l ++ rest') (hread rest').2
    rw [List.append_assoc, List.append_assoc, stringFrom_part hpart']
    exact ⟨(hread rest').1, hlow⟩

/-! ### Tokens -/

/-- Whether a token is a number. -/
def Token.isNumber : Token → Bool
  | number _ => true
  | _ => false

/-- What a token is read from is read as that token before any other text, which a number has to
end before. -/
theorem token?_append {cs rest : List Char} {t : Token} (h : token? cs = some (t, rest)) :
    ∃ l, cs = l ++ rest ∧ (∃ c l', l = c :: l' ∧ isSpace c = false) ∧
      ∀ rest', (t.isNumber = true → EndsNumber rest') → token? (l ++ rest') = some (t, rest') := by
  unfold token? at h
  split at h
  case h_1 | h_2 | h_3 | h_4 | h_5 | h_6 =>
    cases h
    exact ⟨[_], rfl, ⟨_, _, rfl, by decide⟩, fun rest' _ => rfl⟩
  case h_7 | h_8 =>
    cases h
    exact ⟨[_, _, _, _], rfl, ⟨_, _, rfl, by decide⟩, fun rest' _ => rfl⟩
  case h_9 =>
    cases h
    exact ⟨[_, _, _, _, _], rfl, ⟨_, _, rfl, by decide⟩, fun rest' _ => rfl⟩
  case h_10 r =>
    obtain ⟨⟨s, r'⟩, hs, heq⟩ := Option.map_eq_some_iff.mp h
    cases heq
    obtain ⟨l, rfl, hread⟩ := stringFrom_append hs
    refine ⟨'"' :: l, rfl, ⟨_, _, rfl, by decide⟩, fun rest' _ => ?_⟩
    rw [List.cons_append, token?, (hread rest').1]
    rfl
  case h_11 =>
    obtain ⟨⟨n, r'⟩, hn, heq⟩ := Option.map_eq_some_iff.mp h
    cases heq
    obtain ⟨l, rfl, ⟨c, l, rfl, hc⟩, hread⟩ := numeral?_append hn
    -- a number begins with a sign or a digit, as no other token and no blank does
    have hne : ∀ d, d ≠ '-' → d.isDigit = false → c ≠ d := by
      rintro d hminus hdigit rfl
      rcases hc with hc | hc
      · exact hminus hc
      · rw [hc] at hdigit
        cases hdigit
    refine ⟨c :: l, rfl, ⟨c, l, rfl, ?_⟩, fun rest' hrest' => ?_⟩
    · simp [isSpace, hne ' ' (by decide) (by decide), hne '\t' (by decide) (by decide),
        hne '\n' (by decide) (by decide), hne '\r' (by decide) (by decide)]
    · rw [List.cons_append, token?, ← List.cons_append, hread rest' (hrest' rfl)]
      · rfl
      all_goals exact fun _ heq => hne _ (by decide) (by decide) (List.cons.inj heq).1

end NearbyBeacons.Json
