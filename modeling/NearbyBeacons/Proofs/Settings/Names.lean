import Mathlib.Data.List.Basic
import Mathlib.Data.List.Nodup
import NearbyBeacons.Proofs.Text.Run
import NearbyBeacons.Settings.Layer
import NearbyBeacons.Toml.Document
/-!
# Plain names

A name of letters, digits, hyphens and underscores needs no quotes as a key (`key?_bare`) and is
a path of one step (`ofKey_of_isBare`). Without upper-case letters it also keeps its spelling
(`lowercaseText_eq_self`), so that it goes through every layer of settings as it is.
-/

namespace NearbyBeacons

/-! ### New names -/

theorem new_of_nodup {done names : List String} {name : String}
    (h : (done ++ name :: names).Nodup) : name ∉ done := fun hmem =>
  (List.nodup_cons.mp (List.nodup_middle.mp h)).1 (List.mem_append_left names hmem)

theorem lookup_eq_none_of_new {α : Type} {members : List (String × α)} {name : String}
    (h : name ∉ members.map Prod.fst) : members.lookup name = none := by
  rw [List.lookup_eq_none_iff]
  intro entry hentry
  rw [bne_iff_ne]
  rintro rfl
  exact h (List.mem_map_of_mem hentry)

namespace Toml

/-! ### Keys -/

/-- A name that needs no quotes as a key. -/
def IsBare (name : String) : Prop :=
  name.toList ≠ [] ∧ name.toList.all isBareKeyChar = true

instance (name : String) : Decidable (IsBare name) :=
  inferInstanceAs (Decidable (_ ∧ _))

theorem IsBare.forall_chars {name : String} (h : IsBare name) :
    ∀ c ∈ name.toList, isBareKeyChar c = true :=
  List.all_eq_true.mp h.2

/-- A name begins with a character that cannot be any other. -/
theorem IsBare.exists_cons {name : String} (h : IsBare name) :
    ∃ c cs, name.toList = c :: cs ∧ ∀ d : Char, isBareKeyChar d = false → c ≠ d := by
  cases hname : name.toList with
  | nil => exact absurd hname h.1
  | cons c cs =>
    have hc : isBareKeyChar c = true := h.forall_chars c (hname ▸ List.mem_cons_self)
    exact ⟨c, cs, rfl, fun d hd => Text.ne_of_kind hc hd⟩

/-- A name is read up to the first character that cannot belong to it. -/
theorem keyPart?_bare {name : String} (hname : IsBare name) {rest : List Char}
    (hrest : ∀ c ∈ rest.head?, isBareKeyChar c = false) :
    keyPart? (name.toList ++ rest) = some (name, skipSpaces rest) := by
  have htake := Text.takeWhile_run hname.forall_chars hrest
  have hdrop := Text.dropWhile_run hname.forall_chars hrest
  obtain ⟨c, cs, hcons, hne⟩ := hname.exists_cons
  have hskip : skipSpaces (name.toList ++ rest) = name.toList ++ rest := by
    rw [hcons, List.cons_append]
    apply List.dropWhile_cons_of_neg
    simp [isSpace, hne ' ' (by decide), hne '\t' (by decide)]
  have hbare : bareKey? (name.toList ++ rest) = some (name.toList, rest) := by
    rw [bareKey?, htake, hdrop]
    split
    · exact absurd ‹_› hname.1
    · rfl
  rw [keyPart?]
  simp only [hskip]
  split
  · next heq =>
    rw [hcons] at heq
    exact absurd (List.cons.inj heq).1 (hne '"' (by decide))
  · next heq =>
    rw [hcons] at heq
    exact absurd (List.cons.inj heq).1 (hne '\'' (by decide))
  · rw [hbare, Option.map_some, String.ofList_toList]

/-- A name alone is a key of one part. -/
theorem key?_bare {name : String} (hname : IsBare name) {rest : List Char}
    (hrest : ∀ c ∈ rest.head?, isBareKeyChar c = false)
    (hpoint : (skipSpaces rest).head? ≠ some '.') :
    key? (name.toList ++ rest) = some (([], name), skipSpaces rest) := by
  have hkey : keyFrom? [] (name.toList ++ rest) = some ([name], skipSpaces rest) := by
    rw [keyFrom?, keyPart?_bare hname hrest]
    split
    · next heq =>
      exact absurd (by rw [(Prod.mk.inj (Option.some.inj heq)).2]; rfl) hpoint
    · next heq =>
      obtain ⟨hn, hr⟩ := Prod.mk.inj (Option.some.inj heq)
      rw [← hn, ← hr]
      rfl
    · next heq => cases heq
  rw [key?, hkey]
  rfl

end Toml

/-! ### Letter case -/

namespace Text

/-- A character up to the first accented letters, but no upper-case letter. -/
def isLowerLatin (c : Char) : Bool := c.toNat < 0x41 || (0x5A < c.toNat && c.toNat < 0xC0)

theorem caseShift_of_isLowerLatin {c : Char} (h : isLowerLatin c = true) :
    caseShift c.toNat lowercaseRuns = 0 := by
  have hall : ∀ n < 0xC0, n < 0x41 ∨ 0x5A < n → caseShift n lowercaseRuns = 0 := by
    decide +kernel
  simp only [isLowerLatin, Bool.or_eq_true, Bool.and_eq_true, decide_eq_true_eq] at h
  exact hall c.toNat (by omega) (by omega)

theorem lowerIn_of_isLowerLatin {c : Char} (h : isLowerLatin c = true) (before after : List Char) :
    lowerIn before c after = [c] := by
  rw [lowerIn, if_neg (ne_of_kind h (by decide)), lowerChar, if_neg (ne_of_kind h (by decide)),
    caseShift_of_isLowerLatin h, Int.add_zero, Int.toNat_natCast, Char.ofNat_toNat]

theorem lowercaseFrom_eq {cs : List Char} (h : ∀ c ∈ cs, isLowerLatin c = true)
    (before done : List Char) : lowercaseFrom before done cs = done.reverse ++ cs := by
  induction cs generalizing before done with
  | nil => rw [lowercaseFrom, List.append_nil]
  | cons c cs ih =>
    rw [lowercaseFrom, lowerIn_of_isLowerLatin (h c List.mem_cons_self),
      ih fun d hd => h d (List.mem_cons_of_mem _ hd)]
    simp

/-- A text without upper-case letters keeps its spelling. -/
theorem lowercaseText_eq_self {s : String} (h : s.toList.all isLowerLatin = true) :
    lowercaseText s = s := by
  rw [lowercaseText, lowercase, lowercaseFrom_eq (List.all_eq_true.mp h), List.reverse_nil,
    List.nil_append, String.ofList_toList]

end Text

/-! ### Paths -/

open Toml in
/-- A name that needs no quotes is a path of one step. -/
theorem PathStep.ofKey_of_isBare {key : String} (h : IsBare key) : ofKey key = [.name key] := by
  have hchars : ∀ c ∈ key.toList, isNameChar c = true := by
    intro c hc
    have hbare := h.forall_chars c hc
    simp only [isBareKeyChar, Bool.or_eq_true] at hbare
    simp only [isNameChar, Bool.or_eq_true]
    tauto
  have htake : key.toList.takeWhile isNameChar = key.toList := List.takeWhile_eq_self_iff.mpr hchars
  have hdrop : key.toList.dropWhile isNameChar = [] := List.dropWhile_eq_nil_iff.mpr hchars
  have hname : name? key.toList = some (.name key, []) := by
    rw [name?, htake, hdrop]
    split
    · exact absurd ‹_› h.1
    · rw [String.ofList_toList]
  have hlater : laterSteps? [] = some [] := by
    rw [laterSteps?]
    rfl
  rw [ofKey, hname]
  simp [hlater]

/-- A name that stands for itself alone. -/
def IsPlainName (name : String) : Prop :=
  Toml.IsBare name ∧ name.toList.all Text.isLowerLatin = true

instance (name : String) : Decidable (IsPlainName name) :=
  inferInstanceAs (Decidable (_ ∧ _))

end NearbyBeacons
