import Mathlib.Data.List.Chain
import NearbyBeacons.Proofs.Json.Lexeme
/-!
# The spelling of tokens

A row of tokens is spelt by many texts, which differ in blanks, in the escapes of strings and in
the signs of exponents (`Spells`). Tokens are read from each of them, as long as no number is
followed by a token that it goes on with (`tokensFrom_of_spells`), and a text without a fault
spells the tokens that are read from it (`exists_spells_of_tokensFrom`).
-/

namespace NearbyBeacons.Json

/-! ### Texts of tokens -/

/-- `cs` consists of a text for each token, in order, with any blanks around them. -/
inductive Spells : List Char → List Token → Prop
  | done {gap : List Char} (hgap : ∀ c ∈ gap, isSpace c = true) : Spells gap []
  | token {gap l rest : List Char} {t : Token} {ts : List Token}
      (hgap : ∀ c ∈ gap, isSpace c = true) (hl : token? l = some (t, [])) (hrest : Spells rest ts) :
      Spells (gap ++ (l ++ rest)) (t :: ts)

theorem Spells.gap_append {gap cs : List Char} {ts : List Token}
    (hgap : ∀ c ∈ gap, isSpace c = true) (h : Spells cs ts) : Spells (gap ++ cs) ts := by
  cases h with
  | done hgap' => exact .done (List.forall_mem_append.mpr ⟨hgap, hgap'⟩)
  | token hgap' hl hrest =>
    rw [← List.append_assoc]
    exact .token (List.forall_mem_append.mpr ⟨hgap, hgap'⟩) hl hrest

/-- Texts one after the other spell their tokens one after the other. -/
theorem Spells.append {cs cs' : List Char} {ts ts' : List Token} (h : Spells cs ts)
    (h' : Spells cs' ts') : Spells (cs ++ cs') (ts ++ ts') := by
  induction h with
  | done hgap => exact h'.gap_append hgap
  | token hgap hl _ ih =>
    rw [List.append_assoc, List.append_assoc, List.cons_append]
    exact .token hgap hl ih

theorem spells_singleton {l : List Char} {t : Token} (hl : token? l = some (t, [])) :
    Spells l [t] := by
  have h : Spells ([] ++ (l ++ [])) [t] := .token nofun hl (.done nofun)
  rwa [List.nil_append, List.append_nil] at h

/-- Nothing is read as the mark of a fault. -/
theorem not_mem_stray {cs : List Char} {ts : List Token} (h : Spells cs ts) :
    Token.stray ∉ ts := by
  induction h with
  | done => exact List.not_mem_nil
  | @token _ l _ t _ _ hl _ ih =>
    rw [List.mem_cons, not_or]
    refine ⟨?_, ih⟩
    rintro rfl
    unfold token? at hl
    split at hl <;> simp at hl

/-- A token that no number goes on with. -/
def Token.endsNumber : Token → Bool
  | comma | closeBracket | closeBrace => true
  | _ => false

theorem endsNumber_of_token? {l rest : List Char} {t : Token} (hl : token? l = some (t, []))
    (ht : t.endsNumber = true) : EndsNumber (l ++ rest) := by
  unfold token? at hl
  split at hl
  case h_2 | h_4 | h_5 => exact endsNumber_cons (by decide) _
  case h_10 | h_11 =>
    obtain ⟨⟨_, _⟩, -, heq⟩ := Option.map_eq_some_iff.mp hl
    cases heq
    cases ht
  all_goals
    cases hl
    cases ht

/-- A text ends the number before it if its first token does. -/
theorem endsNumber_of_spells {cs : List Char} {ts : List Token} (h : Spells cs ts)
    (ht : ∀ t ∈ ts.head?, t.endsNumber = true) : EndsNumber cs := by
  have hspace : ∀ {gap rest : List Char}, (∀ c ∈ gap, isSpace c = true) → EndsNumber rest →
      EndsNumber (gap ++ rest) := by
    intro gap rest hgap hrest
    cases gap with
    | nil => exact hrest
    | cons c gap =>
      have hc := hgap c List.mem_cons_self
      simp only [isSpace, Bool.or_eq_true, beq_iff_eq] at hc
      apply endsNumber_cons
      rcases hc with ((rfl | rfl) | rfl) | rfl <;> decide
  cases h with
  | done hgap =>
    rw [← List.append_nil cs]
    exact hspace hgap endsNumber_nil
  | token hgap hl hrest => exact hspace hgap (endsNumber_of_token? hl (ht _ rfl))

/-- After every number comes a token that it does not go on with. -/
def Separated (ts : List Token) : Prop :=
  ts.IsChain fun t next => t.isNumber = true → next.endsNumber = true

theorem tokensFrom_gap {gap : List Char} (hgap : ∀ c ∈ gap, isSpace c = true) (done : List Token)
    (cs : List Char) : tokensFrom done (gap ++ cs) = tokensFrom done cs := by
  induction gap with
  | nil => rfl
  | cons c gap ih =>
    rw [List.cons_append, tokensFrom, if_pos (hgap c List.mem_cons_self)]
    exact ih fun d hd => hgap d (List.mem_cons_of_mem c hd)

/-- Separated tokens are read from every text that spells them. -/
theorem tokensFrom_of_spells {cs : List Char} {ts : List Token} (h : Spells cs ts)
    (hts : Separated ts) (done : List Token) : tokensFrom done cs = done.reverse ++ ts := by
  induction h generalizing done with
  | done hgap =>
    have hnil := tokensFrom_gap hgap done []
    rw [List.append_nil] at hnil
    rw [hnil, tokensFrom, List.append_nil]
  | @token gap l rest t ts hgap hl hrest ih =>
    rw [Separated, List.isChain_cons] at hts
    obtain ⟨l', hl', ⟨c, l'', rfl, hc⟩, hread⟩ := token?_append hl
    rw [List.append_nil] at hl'
    subst hl'
    -- behind a number there is a blank, or the text of a token that it does not go on with
    have hrest' : t.isNumber = true → EndsNumber rest := fun ht =>
      endsNumber_of_spells hrest fun t' ht' => hts.1 t' ht' ht
    have htoken := hread rest hrest'
    rw [List.cons_append] at htoken
    rw [tokensFrom_gap hgap, List.cons_append, tokensFrom, if_neg (by simp [hc])]
    split
    · next hnone => simp [htoken] at hnone
    · next t' left hsome =>
      rw [htoken] at hsome
      cases hsome
      rw [ih hts.2, List.reverse_cons, List.append_assoc, List.singleton_append]

/-- A text without a fault spells the tokens that are read from it. -/
theorem exists_spells_of_tokensFrom {done : List Token} {cs : List Char}
    (h : Token.stray ∉ tokensFrom done cs) :
    ∃ ts, tokensFrom done cs = done.reverse ++ ts ∧ Spells cs ts := by
  fun_induction tokensFrom done cs with
  | case1 done => exact ⟨[], (List.append_nil _).symm, .done nofun⟩
  | case2 done c rest hc ih =>
    obtain ⟨ts, hts, hspells⟩ := ih h
    have hgap : ∀ c' ∈ [c], isSpace c' = true := List.forall_mem_singleton.mpr hc
    exact ⟨ts, hts, hspells.gap_append hgap⟩
  | case3 => simp at h
  | case4 done c rest hc t left htoken ih =>
    obtain ⟨ts, hts, hspells⟩ := ih h
    obtain ⟨l, hl, -, hread⟩ := token?_append htoken
    have hl' := hread [] fun _ => endsNumber_nil
    rw [List.append_nil] at hl'
    refine ⟨t :: ts, ?_, ?_⟩
    · rw [hts, List.reverse_cons, List.append_assoc, List.singleton_append]
    · have htext : Spells ([] ++ (l ++ left)) (t :: ts) := .token nofun hl' hspells
      rw [hl]
      exact htext

end NearbyBeacons.Json
