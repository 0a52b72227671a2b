import Mathlib.Data.List.Induction
import NearbyBeacons.Proofs.Text.Lowercase
/-!
# The lower case of a part of a text

A part of a text is lowered as it would be alone, its sigmas aside: they look at what stands
around the part as well (`lowerBetween`). A sigma is settled when the characters of the part
decide how it is read, and a part that settles all of its sigmas is lowered alike wherever it
stands (`lowerBetween_of_settlesFrom`).

Hence the lower case of such a part is found in that of every text that holds the part. The
main statement is that this can be said of no other part (`settlesSigmas_iff`): one letter more,
in front or behind, is enough for a sigma that is not settled to be read in the other way.
-/

namespace NearbyBeacons.Text

/-! ### Parts -/

/-- The lower case of `cs` between the characters `before`, the nearest first, and the
characters `after`. -/
def lowerBetween (before : List Char) : List Char → List Char → List Char
  | [], _ => []
  | c :: cs, after => lowerIn before c (cs ++ after) ++ lowerBetween (c :: before) cs after

theorem lowerBetween_append (before cs more after : List Char) :
    lowerBetween before (cs ++ more) after =
      lowerBetween before cs (more ++ after) ++ lowerBetween (cs.reverse ++ before) more after := by
  induction cs generalizing before with
  | nil => rfl
  | cons c cs ih =>
    rw [List.cons_append, lowerBetween, ih, lowerBetween]
    simp

theorem lowercaseFrom_eq_lowerBetween (before cs : List Char) :
    lowercaseFrom before [] cs = lowerBetween before cs [] := by
  induction cs generalizing before with
  | nil => rfl
  | cons c cs ih => rw [lowercaseFrom_cons, ih, lowerBetween, List.append_nil]

theorem lowercase_eq_lowerBetween (cs : List Char) : lowercase cs = lowerBetween [] cs [] :=
  lowercaseFrom_eq_lowerBetween [] cs

/-- The lower case of a text holds that of each part between its neighbours. -/
theorem lowerBetween_isInfix (front cs back : List Char) :
    lowerBetween front.reverse cs back <:+: lowercase (front ++ cs ++ back) := by
  rw [lowercase_eq_lowerBetween, List.append_assoc, lowerBetween_append, lowerBetween_append,
    List.append_nil, List.append_nil, List.append_nil]
  exact ⟨_, _, List.append_assoc _ _ _⟩

theorem lowerIn_of_ne_sigma {c : Char} (h : c ≠ 'Σ') (before after : List Char) :
    lowerIn before c after = lowerChar c :=
  if_neg h

theorem length_lowerIn (before : List Char) (c : Char) (after before' after' : List Char) :
    (lowerIn before c after).length = (lowerIn before' c after').length := by
  by_cases h : c = 'Σ'
  · simp [lowerIn, h]
  · rw [lowerIn_of_ne_sigma h, lowerIn_of_ne_sigma h]

/-- How long the lower case of a part is does not depend on its neighbours. -/
theorem length_lowerBetween (before cs after before' after' : List Char) :
    (lowerBetween before cs after).length = (lowerBetween before' cs after').length := by
  induction cs generalizing before before' with
  | nil => rfl
  | cons c cs ih =>
    rw [lowerBetween, lowerBetween, List.length_append, List.length_append,
      length_lowerIn _ c _ before' (cs ++ after'), ih _ (c :: before')]

/-! ### Settled sigmas -/

/-- Whether the rule for the final sigma looks past all of `cs`. -/
def isTransparent (cs : List Char) : Bool := cs.all isCaseIgnorable

/-- Whether `before`, the nearest first, and `after` decide how a sigma between them is read,
whatever stands beyond them. A side that is looked past must not matter: the sigma is then in the
middle of a word on account of the other side. -/
def isSettled (before after : List Char) : Bool :=
  (!isTransparent before || startsCased after) && (!isTransparent after || !startsCased before)

/-- Whether each sigma of the characters that follow `before`, the nearest first, is settled. -/
def settlesFrom (before : List Char) : List Char → Bool
  | [] => true
  | c :: cs => (c != 'Σ' || isSettled before cs) && settlesFrom (c :: before) cs

/-- Whether a text settles each of its sigmas by itself. -/
def settlesSigmas (cs : List Char) : Bool := settlesFrom [] cs

theorem startsCased_append (cs more : List Char) :
    startsCased (cs ++ more) = if isTransparent cs then startsCased more else startsCased cs := by
  induction cs with
  | nil => rfl
  | cons c cs ih =>
    simp only [List.cons_append, startsCased, isTransparent, List.all_cons] at ih ⊢
    by_cases hc : isCaseIgnorable c = true <;> simp [hc, ih]

theorem startsCased_of_isTransparent {cs : List Char} (h : isTransparent cs = true) :
    startsCased cs = false := by
  have happend := startsCased_append cs []
  rw [List.append_nil, if_pos h] at happend
  exact happend

/-- A settled sigma is read alike whatever stands beyond its neighbours. -/
theorem isWordEnd_of_isSettled {before after : List Char} (h : isSettled before after = true)
    (front back : List Char) :
    isWordEnd (before ++ front) (after ++ back) = isWordEnd before after := by
  have hbefore : isTransparent before = true → startsCased before = false :=
    startsCased_of_isTransparent
  have hafter : isTransparent after = true → startsCased after = false :=
    startsCased_of_isTransparent
  unfold isSettled at h
  rw [isWordEnd, isWordEnd, startsCased_append, startsCased_append]
  -- a side that is looked past holds no cased letter of its own, so the other one decides
  cases hb : isTransparent before <;> cases ha : isTransparent after <;> simp_all

/-- A text that settles its sigmas has the same lower case wherever it stands. -/
theorem lowerBetween_of_settlesFrom {before cs : List Char} (h : settlesFrom before cs = true)
    (front back : List Char) :
    lowerBetween (before ++ front) cs back = lowerBetween before cs [] := by
  induction cs generalizing before with
  | nil => rfl
  | cons c cs ih =>
    rw [settlesFrom, Bool.and_eq_true, Bool.or_eq_true, bne_iff_ne] at h
    obtain ⟨hc, hcs⟩ := h
    have hfirst : lowerIn (before ++ front) c (cs ++ back) = lowerIn before c (cs ++ []) := by
      by_cases hsigma : c = 'Σ'
      · have hsettled := hc.resolve_left (not_not.mpr hsigma)
        rw [lowerIn, lowerIn, isWordEnd_of_isSettled hsettled, List.append_nil]
      · rw [lowerIn_of_ne_sigma hsigma, lowerIn_of_ne_sigma hsigma]
    rw [lowerBetween, lowerBetween, hfirst, ← ih hcs, List.cons_append]

theorem settlesFrom_of_not_mem {cs : List Char} (h : 'Σ' ∉ cs) (before : List Char) :
    settlesFrom before cs = true := by
  induction cs generalizing before with
  | nil => rfl
  | cons c cs ih =>
    rw [List.mem_cons, not_or] at h
    rw [settlesFrom, ih h.2, Bool.and_true, bne_iff_ne.mpr (Ne.symm h.1), Bool.true_or]

theorem settlesSigmas_of_not_mem {cs : List Char} (h : 'Σ' ∉ cs) : settlesSigmas cs = true :=
  settlesFrom_of_not_mem h []

/-- The lower case of a part that settles its sigmas is part of the lower case of the text. -/
theorem lowercase_isInfix_of_settlesSigmas {part text : List Char}
    (h : settlesSigmas part = true) (hpart : part <:+: text) :
    lowercase part <:+: lowercase text := by
  obtain ⟨front, back, rfl⟩ := hpart
  have hsame := lowerBetween_of_settlesFrom h front.reverse back
  rw [List.nil_append, ← lowercase_eq_lowerBetween] at hsame
  rw [← hsame]
  exact lowerBetween_isInfix front part back

/-! ### Sigmas that are not settled -/

/-- A text that does not settle its sigmas has one that is not settled. -/
theorem exists_of_settlesFrom_eq_false {before cs : List Char}
    (h : settlesFrom before cs = false) :
    ∃ front back, cs = front ++ 'Σ' :: back ∧ isSettled (front.reverse ++ before) back = false := by
  induction cs generalizing before with
  | nil => cases h
  | cons c cs ih =>
    rw [settlesFrom, Bool.and_eq_false_iff, Bool.or_eq_false_iff, bne_eq_false_iff_eq] at h
    rcases h with ⟨rfl, hsettled⟩ | hcs
    · exact ⟨[], cs, rfl, hsettled⟩
    · obtain ⟨front, back, rfl, hsettled⟩ := ih hcs
      refine ⟨c :: front, back, rfl, ?_⟩
      rw [List.reverse_cons, List.append_assoc]
      exact hsettled

/-- Where the lower case of a part is the same between other neighbours, its sigmas are read
alike. -/
theorem isWordEnd_eq_of_lowerBetween_eq {front back before after before' after' : List Char}
    (h : lowerBetween before (front ++ 'Σ' :: back) after =
      lowerBetween before' (front ++ 'Σ' :: back) after') :
    isWordEnd (front.reverse ++ before) (back ++ after) =
      isWordEnd (front.reverse ++ before') (back ++ after') := by
  rw [lowerBetween_append, lowerBetween_append] at h
  have hrest := List.append_inj_right h (length_lowerBetween _ _ _ _ _)
  rw [lowerBetween, lowerBetween, lowerIn, lowerIn, if_pos rfl, if_pos rfl] at hrest
  have hhead := (List.cons.inj hrest).1
  revert hhead
  cases isWordEnd (front.reverse ++ before) (back ++ after) <;>
    cases isWordEnd (front.reverse ++ before') (back ++ after') <;> decide

/-! ### One letter more -/

theorem isCaseIgnorable_of_hasAsciiPartner {c : Char} (h : HasAsciiPartner c) :
    isCaseIgnorable c = false := by
  have hcapital : ∀ n ≤ 0x5A, 0x41 ≤ n → inRanges n caseIgnorableRanges = false := by
    decide +kernel
  rw [isCaseIgnorable]
  rcases h with h | h | h
  · exact hcapital c.toNat h.2 h.1
  · rw [h]
    decide +kernel
  · rw [h]
    decide +kernel

/-- A character that is looked past, or a sigma, comes to one character, which is not the
letter `a`. -/
theorem exists_lowerIn_ne_a {c : Char} (h : isCaseIgnorable c = true ∨ c = 'Σ')
    (before after : List Char) : ∃ d, lowerIn before c after = [d] ∧ d ≠ 'a' := by
  have hpartner : ¬HasAsciiPartner c := by
    intro hpartner
    rcases h with h | rfl
    · rw [isCaseIgnorable_of_hasAsciiPartner hpartner] at h
      cases h
    · simp [HasAsciiPartner] at hpartner
  have hsingle : ∃ d, lowerIn before c after = [d] := by
    rw [lowerIn, lowerChar]
    split
    · exact ⟨_, rfl⟩
    · rw [if_neg]
      · exact ⟨_, rfl⟩
      · rintro rfl
        exact hpartner (Or.inr (Or.inr rfl))
  obtain ⟨d, hd⟩ := hsingle
  refine ⟨d, hd, ?_⟩
  rintro rfl
  -- an ASCII character comes of itself, or of a character with a partner
  have hself := (lowerIn_spec before c after).2 hpartner (by simp [hd])
  rw [hd] at hself
  obtain rfl := (List.cons.inj hself).1
  revert h
  decide +kernel

theorem lowerIn_a (before after : List Char) : lowerIn before 'a' after = ['a'] := by
  rw [lowerIn_of_ne_sigma (by decide)]
  decide +kernel

theorem startsCased_a (cs : List Char) : startsCased ('a' :: cs) = true := by
  have hletter : isCaseIgnorable 'a' = false ∧ isCased 'a' = true := by decide +kernel
  simp [startsCased, hletter]

/-- A part that does not begin like the lower case of an `a` is found behind one only as it is
lowered there. -/
theorem lowerBetween_eq_of_isInfix_cons {c : Char} {cs : List Char}
    (hc : isCaseIgnorable c = true ∨ c = 'Σ')
    (h : lowercase (c :: cs) <:+: lowercase ('a' :: c :: cs)) :
    lowerBetween [] (c :: cs) [] = lowerBetween ['a'] (c :: cs) [] := by
  have hletter : lowercase ('a' :: c :: cs) = 'a' :: lowerBetween ['a'] (c :: cs) [] := by
    rw [lowercase_eq_lowerBetween, lowerBetween, lowerIn_a]
    rfl
  rw [hletter, lowercase_eq_lowerBetween, List.infix_cons_iff] at h
  -- there is room for one character more: the part is found at the `a`, or right behind it
  rcases h with hprefix | hinfix
  · obtain ⟨d, hd, hne⟩ := exists_lowerIn_ne_a hc [] (cs ++ [])
    rw [lowerBetween, hd, List.singleton_append, List.cons_prefix_cons] at hprefix
    exact absurd hprefix.1 hne
  · exact hinfix.eq_of_length (length_lowerBetween ..)

/-- A part that does not end like the lower case of an `a` is found before one only as it is
lowered there. -/
theorem lowerBetween_eq_of_isInfix_concat {c : Char} {cs : List Char}
    (hc : isCaseIgnorable c = true ∨ c = 'Σ')
    (h : lowercase (cs ++ [c]) <:+: lowercase (cs ++ [c] ++ ['a'])) :
    lowerBetween [] (cs ++ [c]) [] = lowerBetween [] (cs ++ [c]) ['a'] := by
  have hletter :
      lowercase (cs ++ [c] ++ ['a']) = lowerBetween [] (cs ++ [c]) ['a'] ++ ['a'] := by
    rw [lowercase_eq_lowerBetween, lowerBetween_append, lowerBetween, lowerIn_a]
    rfl
  rw [hletter, lowercase_eq_lowerBetween, List.infix_concat_iff] at h
  -- the part is found up to the `a`, or right before it
  rcases h with hsuffix | hinfix
  · obtain ⟨d, hd, hne⟩ := exists_lowerIn_ne_a hc (cs.reverse ++ []) []
    have hlast := lowerBetween_append [] cs [c] []
    rw [lowerBetween, List.nil_append, hd, lowerBetween, List.append_nil] at hlast
    rw [hlast, List.suffix_concat_iff] at hsuffix
    rcases hsuffix with hnil | ⟨front, hfront, -⟩
    · exact absurd hnil (by simp)
    · exact absurd (List.append_inj_right' hfront rfl) (by simpa using hne)
  · exact hinfix.eq_of_length (length_lowerBetween ..)

/-- A sigma with nothing before it that stops the look back: an `a` in front of the part makes it
the end of a word, unless a cased letter follows. -/
theorem startsCased_of_found {front back : List Char}
    (h : lowercase (front ++ 'Σ' :: back) <:+: lowercase ('a' :: (front ++ 'Σ' :: back)))
    (hfront : isTransparent front.reverse = true) : startsCased back = true := by
  obtain ⟨c, cs, hcons, hc⟩ :
      ∃ c cs, front ++ 'Σ' :: back = c :: cs ∧ (isCaseIgnorable c = true ∨ c = 'Σ') := by
    cases front with
    | nil => exact ⟨'Σ', back, rfl, Or.inr rfl⟩
    | cons c cs =>
      have hall := List.all_eq_true.mp hfront
      exact ⟨c, cs ++ 'Σ' :: back, rfl, Or.inl (hall c (by simp))⟩
  rw [hcons] at h
  have hsame := lowerBetween_eq_of_isInfix_cons hc h
  rw [← hcons] at hsame
  have hread := isWordEnd_eq_of_lowerBetween_eq hsame
  simpa [isWordEnd, startsCased_append, hfront, startsCased_a,
    startsCased_of_isTransparent hfront] using hread

/-- A sigma with nothing behind it that stops the look ahead: an `a` behind the part makes it the
middle of a word, which matters if a cased letter precedes. -/
theorem startsCased_eq_false_of_found {front back : List Char}
    (h : lowercase (front ++ 'Σ' :: back) <:+: lowercase (front ++ 'Σ' :: back ++ ['a']))
    (hback : isTransparent back = true) : startsCased front.reverse = false := by
  obtain ⟨cs, c, hconcat, hc⟩ :
      ∃ cs c, front ++ 'Σ' :: back = cs ++ [c] ∧ (isCaseIgnorable c = true ∨ c = 'Σ') := by
    cases back using List.reverseRecOn with
    | nil => exact ⟨front, 'Σ', rfl, Or.inr rfl⟩
    | append_singleton cs c =>
      have hall := List.all_eq_true.mp hback
      exact ⟨front ++ 'Σ' :: cs, c, by simp, Or.inl (hall c (by simp))⟩
  rw [hconcat] at h
  have hsame := lowerBetween_eq_of_isInfix_concat hc h
  rw [← hconcat] at hsame
  have hread := isWordEnd_eq_of_lowerBetween_eq hsame
  simpa [isWordEnd, startsCased_append, hback, startsCased_a,
    startsCased_of_isTransparent hback] using hread

/-- **Which parts are found in lower case wherever they stand.** The lower case of a part is part
of the lower case of each text that holds it exactly when the part settles its sigmas. -/
theorem settlesSigmas_iff {part : List Char} :
    settlesSigmas part = true ↔
      ∀ text, part <:+: text → lowercase part <:+: lowercase text := by
  refine ⟨fun h text => lowercase_isInfix_of_settlesSigmas h, fun h => ?_⟩
  by_contra hnot
  rw [Bool.not_eq_true] at hnot
  obtain ⟨front, back, rfl, hsettled⟩ := exists_of_settlesFrom_eq_false hnot
  have hbefore := startsCased_of_found (h ('a' :: (front ++ 'Σ' :: back)) ⟨['a'], [], by simp⟩)
  have hafter := startsCased_eq_false_of_found
    (h (front ++ 'Σ' :: back ++ ['a']) (List.infix_append' [] _ ['a']))
  rw [List.append_nil, isSettled] at hsettled
  -- on whichever side the sigma is open, the letter there contradicts that the part is found
  cases hfront : isTransparent front.reverse <;> cases hback : isTransparent back <;> simp_all

end NearbyBeacons.Text
