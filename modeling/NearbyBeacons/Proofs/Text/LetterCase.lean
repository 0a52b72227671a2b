import NearbyBeacons.Proofs.Text.Lowercase
/-!
# Lower case and the case of ASCII letters

A text comes to the same lower case whatever the case of its ASCII letters (`lowercase_congr`).
Of the letters themselves that is clear, but a sigma also looks at the letters around it. It sees
the same in them in either case, because `A` and `a` are both cased and neither is looked past
(`toLower_spec`).
-/

namespace NearbyBeacons.Text

/-- What holds between a character and itself, and between each ASCII capital and its small
letter, holds between every character and its lower-case form in ASCII. -/
theorem forall_toLower {P : Char → Char → Prop} (hself : ∀ c, P c c)
    (hcapital : ∀ n ≤ 0x5A, 0x41 ≤ n → P (Char.ofNat n).toLower (Char.ofNat n)) (c : Char) :
    P c.toLower c := by
  by_cases h : 'A'.val ≤ c.val ∧ c.val ≤ 'Z'.val
  · have hletter := hcapital c.toNat h.2 h.1
    rw [Char.ofNat_toNat] at hletter
    exact hletter
  · have hsame : c.toLower = c := dif_neg h
    rw [hsame]
    exact hself c

/-- What is asked of a character when a text is lowered has the same answer for an ASCII letter
in both cases. -/
theorem toLower_spec (c : Char) :
    isCaseIgnorable c.toLower = isCaseIgnorable c ∧ isCased c.toLower = isCased c ∧
      (c.toLower = 'Σ' ↔ c = 'Σ') ∧ lowerChar c.toLower = lowerChar c :=
  forall_toLower
    (P := fun d c => isCaseIgnorable d = isCaseIgnorable c ∧ isCased d = isCased c ∧
      (d = 'Σ' ↔ c = 'Σ') ∧ lowerChar d = lowerChar c)
    (fun _ => ⟨rfl, rfl, Iff.rfl, rfl⟩) (by decide +kernel) c

theorem startsCased_map_toLower (cs : List Char) :
    startsCased (cs.map Char.toLower) = startsCased cs := by
  induction cs with
  | nil => rfl
  | cons c cs ih =>
    obtain ⟨hignorable, hcased, -, -⟩ := toLower_spec c
    rw [List.map_cons, startsCased, startsCased, hignorable, hcased, ih]

/-- A character is lowered alike among letters of either case. -/
theorem lowerIn_map_toLower (before : List Char) (c : Char) (after : List Char) :
    lowerIn (before.map Char.toLower) c.toLower (after.map Char.toLower) =
      lowerIn before c after := by
  obtain ⟨-, -, hsigma, hlower⟩ := toLower_spec c
  rw [lowerIn, lowerIn, isWordEnd, isWordEnd, startsCased_map_toLower, startsCased_map_toLower,
    hlower]
  simp only [hsigma]

theorem lowercase_map_toLower (cs : List Char) :
    lowercase (cs.map Char.toLower) = lowercase cs := by
  suffices hfrom : ∀ before, lowercaseFrom (before.map Char.toLower) [] (cs.map Char.toLower) =
      lowercaseFrom before [] cs from hfrom []
  induction cs with
  | nil => exact fun _ => rfl
  | cons c cs ih =>
    intro before
    have hrest := ih (c :: before)
    rw [List.map_cons] at hrest
    rw [List.map_cons, lowercaseFrom_cons, lowercaseFrom_cons, lowerIn_map_toLower, hrest]

/-- Texts that agree apart from the case of ASCII letters have the same lower case. -/
theorem lowercase_congr {cs ds : List Char} (h : cs.map Char.toLower = ds.map Char.toLower) :
    lowercase cs = lowercase ds := by
  rw [← lowercase_map_toLower cs, h, lowercase_map_toLower]

end NearbyBeacons.Text
