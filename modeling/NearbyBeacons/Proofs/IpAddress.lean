import Mathlib.Data.List.Basic
import Mathlib.Data.List.Infix
import NearbyBeacons.IpAddress
import NearbyBeacons.Proofs.Decimal
import NearbyBeacons.Proofs.Text.Run
/-!
# Texts of internet addresses read back

The canonical text of an address names that address (`parse?_text`). An address of version 6 is
never mistaken for one of version 4: behind the digits that a group begins with stands no point.
-/

namespace NearbyBeacons

/-! ### Hexadecimal numbers -/

namespace Ascii

theorem hexValue?_digitChar {n : Nat} (h : n < 16) : hexValue? n.digitChar = some n := by
  have hall : ∀ n < 16, hexValue? n.digitChar = some n := by decide
  exact hall n h

theorem hexNumber?_concat {cs : List Char} {c : Char} {n d : Nat} (hcs : hexNumber? cs = some n)
    (hc : hexValue? c = some d) : hexNumber? (cs ++ [c]) = some (16 * n + d) := by
  rw [hexNumber?] at hcs ⊢
  rw [List.foldl_append, hcs, List.foldl_cons, List.foldl_nil, Option.bind_some, hc,
    Option.map_some]

/-- A number reads back from its hexadecimal digits. -/
theorem hexNumber?_toDigits (n : Nat) : hexNumber? (Nat.toDigits 16 n) = some n := by
  induction n using Nat.strongRecOn with
  | _ n ih =>
    rw [Nat.toDigits_eq_if (by decide)]
    split
    · next h =>
      have hempty : hexNumber? [] = some 0 := rfl
      have hdigit := hexNumber?_concat hempty (hexValue?_digitChar h)
      rw [List.nil_append, Nat.mul_zero, Nat.zero_add] at hdigit
      exact hdigit
    · rw [hexNumber?_concat (ih (n / 16) (by omega)) (hexValue?_digitChar (by omega))]
      congr 1
      omega

theorem isHexDigit_of_mem_toDigits {n : Nat} {c : Char} (h : c ∈ Nat.toDigits 16 n) :
    isHexDigit c = true := by
  induction n using Nat.strongRecOn with
  | _ n ih =>
    have hdigit : ∀ {d}, d < 16 → isHexDigit d.digitChar = true := fun hd => by
      rw [isHexDigit, hexValue?_digitChar hd, Option.isSome_some]
    rw [Nat.toDigits_eq_if (by decide)] at h
    split at h
    · next hlt =>
      rw [List.mem_singleton.mp h]
      exact hdigit hlt
    · rcases List.mem_append.mp h with h | h
      · exact ih (n / 16) (by omega) h
      · rw [List.mem_singleton.mp h]
        exact hdigit (by omega)

end Ascii

namespace IpAddress

/-! ### Version 4 -/

theorem octet?_digits (a : UInt8) {rest : List Char}
    (h : ∀ c ∈ rest.head?, c.isDigit = false) :
    octet? (Decimal.digits a.toNat ++ rest) = some (a, rest) := by
  have hlt : a.toNat < 256 := a.toNat_lt
  have hlength : (Decimal.digits a.toNat).length ≤ 3 := Decimal.length_digits_le_three (by omega)
  have hzero : (Decimal.digits a.toNat).head? = some '0' →
      (Decimal.digits a.toNat).length ≤ 1 := by
    intro hhead
    have hz : a.toNat = 0 := by
      by_contra hne
      exact Decimal.head?_digits_ne_zero hne hhead
    rw [hz]
    decide
  have hempty : (Decimal.digits a.toNat).isEmpty = false := by
    simpa using Decimal.digits_ne_nil a.toNat
  have hrun := Text.takeWhile_run (fun _ hc => Decimal.isDigit_of_mem_digits (n := a.toNat) hc) h
  rw [octet?]
  simp only [hrun, Decimal.value_digits, hempty, Bool.false_or, UInt8.ofNat_toNat,
    List.drop_append_length]
  rw [if_neg]
  simp only [Bool.or_eq_true, Bool.and_eq_true, decide_eq_true_eq, beq_iff_eq]
  rintro ((hlong | ⟨hhead, hlong⟩) | hbig)
  · omega
  · have := hzero hhead
    omega
  · omega

theorem quad?_text4 (a b c d : UInt8) {rest : List Char}
    (h : ∀ c ∈ rest.head?, c.isDigit = false) :
    quad? (text4 a b c d ++ rest) = some ((a, b, c, d), rest) := by
  have hpoint : ∀ (n : UInt8) (cs : List Char),
      octet? (Decimal.digits n.toNat ++ '.' :: cs) = some (n, '.' :: cs) := by
    intro n cs
    exact octet?_digits n (Text.forall_mem_head?_cons (by decide) _)
  have htext : text4 a b c d ++ rest = Decimal.digits a.toNat ++ '.' ::
      (Decimal.digits b.toNat ++ '.' :: (Decimal.digits c.toNat ++ '.' ::
        (Decimal.digits d.toNat ++ rest))) := by
    simp [text4]
  rw [htext]
  simp [quad?, hpoint, mark?, octet?_digits d h]

theorem quad?_text4_nil (a b c d : UInt8) : quad? (text4 a b c d) = some ((a, b, c, d), []) := by
  rw [← List.append_nil (text4 a b c d)]
  exact quad?_text4 a b c d (by simp)

/-- Where no point follows the digits at the start, there is no address of version 4. -/
theorem quad?_eq_none {cs : List Char} (h : (cs.dropWhile Char.isDigit).head? ≠ some '.') :
    quad? cs = none := by
  have hdrop : cs.drop (cs.takeWhile Char.isDigit).length = cs.dropWhile Char.isDigit := by
    calc cs.drop (cs.takeWhile Char.isDigit).length
        = (cs.takeWhile Char.isDigit ++ cs.dropWhile Char.isDigit).drop
            (cs.takeWhile Char.isDigit).length := by rw [List.takeWhile_append_dropWhile]
      _ = cs.dropWhile Char.isDigit := List.drop_left' rfl
  have hmark : mark? '.' (cs.dropWhile Char.isDigit) = none := by
    cases hcs : cs.dropWhile Char.isDigit with
    | nil => rfl
    | cons c rest =>
      rw [mark?, if_neg]
      rintro rfl
      exact h (by rw [hcs]; rfl)
  rw [quad?, octet?]
  split
  · rfl
  · simp [hdrop, hmark]

/-! ### Groups -/

/-- What may follow a group: a colon, or nothing. -/
def EndsGroup (rest : List Char) : Prop := ∀ c ∈ rest.head?, c = ':'

/-- What may follow the last group of a run: nothing, or a pair of colons. -/
def EndsGroups (rest : List Char) : Prop := rest = [] ∨ [':', ':'] <+: rest

theorem EndsGroups.endsGroup {rest : List Char} (h : EndsGroups rest) : EndsGroup rest := by
  rcases h with rfl | ⟨more, rfl⟩
  · simp [EndsGroup]
  · simp [EndsGroup]

/-- A colon before a group that is not there is the first of the pair. -/
theorem EndsGroups.endsGroup_of_afterColon? {isFirst : Bool} {rest cs : List Char}
    (h : EndsGroups rest) (hcolon : afterColon? isFirst rest = some cs) : EndsGroup cs := by
  cases isFirst with
  | true =>
    rw [← Option.some.inj hcolon]
    exact h.endsGroup
  | false =>
    rcases h with rfl | ⟨more, rfl⟩
    · cases hcolon
    · rw [← Option.some.inj hcolon]
      simp [EndsGroup]

theorem group?_groupText (g : UInt16) {rest : List Char} (h : EndsGroup rest) :
    group? (groupText g ++ rest) = some (g, rest) := by
  have hlt : g.toNat < 65536 := g.toNat_lt
  have hlength : (groupText g).length ≤ 4 :=
    (Nat.length_toDigits_le_iff (by decide) (by decide)).mpr hlt
  have hempty : (groupText g).isEmpty = false := by
    simp [groupText]
  have hrun : (groupText g ++ rest).takeWhile Ascii.isHexDigit = groupText g := by
    apply Text.takeWhile_run
    · exact fun c hc => Ascii.isHexDigit_of_mem_toDigits hc
    · intro c hc
      rw [h c hc]
      decide
  rw [group?]
  simp only [hrun, hempty, Bool.false_or, List.drop_append_length]
  rw [if_neg (by simpa using hlength), groupText, Ascii.hexNumber?_toDigits, Option.map_some,
    UInt16.ofNat_toNat]

/-- Where a group ends behind hexadecimal digits, there is no address of version 4. -/
theorem quad?_hexDigits {run rest : List Char} (hrun : ∀ c ∈ run, Ascii.isHexDigit c = true)
    (hrest : EndsGroup rest) : quad? (run ++ rest) = none := by
  apply quad?_eq_none
  induction run with
  | nil =>
    cases rest with
    | nil => simp
    | cons c rest =>
      have hcolon : c = ':' := hrest c rfl
      rw [hcolon, List.nil_append, List.dropWhile_cons_of_neg (by decide)]
      simp
  | cons c run ih =>
    rw [List.cons_append]
    by_cases hdigit : c.isDigit = true
    · rw [List.dropWhile_cons_of_pos hdigit]
      exact ih fun d hd => hrun d (List.mem_cons_of_mem _ hd)
    · rw [List.dropWhile_cons_of_neg hdigit, List.head?_cons, Ne, Option.some_inj]
      rintro rfl
      exact absurd (hrun '.' List.mem_cons_self) (by decide)

theorem quad?_groupText (g : UInt16) {rest : List Char} (h : EndsGroup rest) :
    quad? (groupText g ++ rest) = none :=
  quad?_hexDigits (fun _ hc => Ascii.isHexDigit_of_mem_toDigits hc) h

theorem quad?_of_endsGroup {rest : List Char} (h : EndsGroup rest) : quad? rest = none :=
  quad?_hexDigits (fun _ hc => absurd hc List.not_mem_nil) h

theorem group?_of_endsGroup {rest : List Char} (h : EndsGroup rest) : group? rest = none := by
  have hrun : rest.takeWhile Ascii.isHexDigit = [] := by
    cases rest with
    | nil => rfl
    | cons c rest =>
      have hcolon : c = ':' := h c rfl
      rw [hcolon, List.takeWhile_cons_of_neg (by decide)]
  rw [group?]
  simp [hrun]

/-! ### Runs of groups -/

/-- Where no address of version 4 can be read, a group is read. -/
theorem groups?_succ {isFirst : Bool} {cs cs' : List Char} (room : Nat)
    (hcolon : afterColon? isFirst cs = some cs') (hquad : quad? cs' = none) :
    groups? isFirst (room + 1) cs = match group? cs' with
      | some (g, rest) => (g :: (groups? false room rest).1, (groups? false room rest).2)
      | none => ([], false, cs) := by
  rw [groups?]
  cases hgroup : group? cs' with
  | none => simp only [hcolon, hquad, hgroup, ite_self]
  | some found => simp only [hcolon, hquad, hgroup, ite_self]

/-- A run of groups stops where it ends. -/
theorem groups?_of_endsGroups (isFirst : Bool) (room : Nat) {rest : List Char}
    (h : EndsGroups rest) : groups? isFirst room rest = ([], false, rest) := by
  cases room with
  | zero => rw [groups?]
  | succ room =>
    cases hcolon : afterColon? isFirst rest with
    | none =>
      rw [groups?]
      simp only [hcolon]
    | some cs =>
      have hends : EndsGroup cs := h.endsGroup_of_afterColon? hcolon
      rw [groups?_succ room hcolon (quad?_of_endsGroup hends),
        group?_of_endsGroup hends]

/-- Groups with a colon in front of each. -/
def laterText (gs : List UInt16) : List Char := gs.flatMap fun g => ':' :: groupText g

theorem groupsText_cons (g : UInt16) (gs : List UInt16) :
    groupsText (g :: gs) = groupText g ++ laterText gs := by
  induction gs generalizing g with
  | nil => rw [groupsText, laterText, List.flatMap_nil, List.append_nil]
  | cons g' gs ih =>
    rw [groupsText, ih, laterText, laterText, List.flatMap_cons, List.cons_append]
    exact List.cons_ne_nil _ _

theorem endsGroup_laterText (gs : List UInt16) {rest : List Char} (h : EndsGroup rest) :
    EndsGroup (laterText gs ++ rest) := by
  cases gs with
  | nil => exact h
  | cons g gs => simp [EndsGroup, laterText]

theorem groups?_laterText {gs : List UInt16} {room : Nat} (hroom : gs.length ≤ room)
    {rest : List Char} (h : EndsGroups rest) :
    groups? false room (laterText gs ++ rest) = (gs, false, rest) := by
  -- every group takes one place, and what follows it never looks like an address of version 4
  induction gs generalizing room with
  | nil => exact groups?_of_endsGroups false room h
  | cons g gs ih =>
    obtain ⟨room, rfl⟩ : ∃ r, room = r + 1 := ⟨room - 1, by simp at hroom; omega⟩
    have hends := endsGroup_laterText gs h.endsGroup
    have htext : laterText (g :: gs) ++ rest = ':' :: (groupText g ++ (laterText gs ++ rest)) := by
      simp [laterText]
    rw [htext, groups?_succ room rfl (quad?_groupText g hends),
      group?_groupText g hends]
    simp only [ih (Nat.le_of_succ_le_succ hroom)]

/-- Written groups read back, as far as there is room for them. -/
theorem groups?_groupsText {gs : List UInt16} {room : Nat} (hroom : gs.length ≤ room)
    {rest : List Char} (h : EndsGroups rest) :
    groups? true room (groupsText gs ++ rest) = (gs, false, rest) := by
  cases gs with
  | nil => exact groups?_of_endsGroups true room h
  | cons g gs =>
    obtain ⟨room, rfl⟩ : ∃ r, room = r + 1 := ⟨room - 1, by simp at hroom; omega⟩
    have hends := endsGroup_laterText gs h.endsGroup
    rw [groupsText_cons, List.append_assoc, groups?_succ room rfl (quad?_groupText g hends),
      group?_groupText g hends]
    simp only [groups?_laterText (Nat.le_of_succ_le_succ hroom) h]

theorem groups?_groupsText_nil {gs : List UInt16} {room : Nat} (hroom : gs.length ≤ room) :
    groups? true room (groupsText gs) = (gs, false, []) := by
  rw [← List.append_nil (groupsText gs)]
  exact groups?_groupsText hroom (.inl rfl)

/-! ### The longest run of zeros -/

theorem replicate_leadingZeros (gs : List UInt16) :
    List.replicate (leadingZeros gs) 0 <+: gs := by
  have hzeros : gs.takeWhile (· == 0) = List.replicate (leadingZeros gs) 0 := by
    rw [leadingZeros, List.eq_replicate_iff]
    exact ⟨rfl, fun g hg => by simpa using List.mem_takeWhile_imp hg⟩
  rw [← hzeros]
  exact List.takeWhile_prefix _

/-- The longest run of zeros consists of zeros. -/
theorem longestZeros_spec (start : Nat) (gs : List UInt16) :
    ∃ before after, (longestZeros start gs).1 = start + before.length ∧
      gs = before ++ List.replicate (longestZeros start gs).2 0 ++ after := by
  induction gs generalizing start with
  | nil => exact ⟨[], [], rfl, rfl⟩
  | cons g gs ih =>
    rw [longestZeros]
    split
    · obtain ⟨after, hafter⟩ := replicate_leadingZeros (g :: gs)
      exact ⟨[], after, rfl, hafter.symm⟩
    · obtain ⟨before, after, hstart, hgs⟩ := ih (start + 1)
      refine ⟨g :: before, after, ?_, ?_⟩
      · rw [hstart, List.length_cons]
        omega
      · conv_lhs => rw [hgs]
        rfl

/-! ### Addresses -/

theorem ofGroups?_toList (groups : Vector UInt16 8) :
    ofGroups? groups.toList = some (v6 groups) := by
  rw [ofGroups?, dif_pos Vector.length_toList]
  rfl

/-- A group is put together again from its two bytes. -/
theorem ofNat_halves (g : UInt16) :
    UInt16.ofNat ((g / 256).toUInt8.toNat * 256 + (g % 256).toUInt8.toNat) = g := by
  have hlt : g.toNat < 65536 := g.toNat_lt
  have hhigh : (g / 256).toUInt8.toNat = g.toNat / 256 := by
    rw [UInt16.toNat_toUInt8, UInt16.toNat_div]
    exact Nat.mod_eq_of_lt (Nat.div_lt_of_lt_mul hlt)
  have hlow : (g % 256).toUInt8.toNat = g.toNat % 256 := by
    rw [UInt16.toNat_toUInt8, UInt16.toNat_mod]
    exact Nat.mod_mod g.toNat 256
  rw [hhigh, hlow, Nat.div_add_mod', UInt16.ofNat_toNat]

theorem groups?_mixed (a b c d : UInt8) :
    groups? true 7 (groupText 0xFFFF ++ ':' :: text4 a b c d) =
      (0xFFFF :: mixedGroups a b c d, true, []) := by
  have hends : EndsGroup (':' :: text4 a b c d) := by simp [EndsGroup]
  have hmixed : groups? false 6 (':' :: text4 a b c d) = (mixedGroups a b c d, true, []) := by
    rw [groups?]
    simp [afterColon?, mark?, quad?_text4_nil]
  rw [groups?_succ 6 rfl (quad?_groupText _ hends), group?_groupText _ hends]
  simp only [hmixed]

/-- What begins with a pair of colons has no groups in front of it. -/
theorem address6?_pair {front : List UInt16} {rest : List Char} (hfront : front.length < 8)
    {back : List UInt16} {mixed : Bool}
    (hback : groups? true (7 - front.length) rest = (back, mixed, [])) :
    address6? (groupsText front ++ ':' :: ':' :: rest) =
      (ofGroups? (front ++ List.replicate (8 - front.length - back.length) 0 ++ back)).map
        fun a => (a, []) := by
  have hread := groups?_groupsText hfront.le (.inr ⟨rest, rfl⟩)
  rw [address6?, List.cons_append, List.singleton_append] at *
  rw [hread]
  simp only [hfront.ne, if_false, hback, Bool.false_eq_true]

/-- The text of a mapped address. -/
def mappedText (g h : UInt16) : List Char :=
  groupsText [] ++ ':' :: ':' :: (groupText 0xFFFF ++ ':' ::
    text4 (g / 256).toUInt8 (g % 256).toUInt8 (h / 256).toUInt8 (h % 256).toUInt8)

/-- A mapped address reads back from its mixed form. -/
theorem address6?_mapped (g h : UInt16) :
    address6? (mappedText g h) =
      (ofGroups? [0, 0, 0, 0, 0, 0xFFFF, g, h]).map fun a => (a, []) := by
  have hback := groups?_mixed (g / 256).toUInt8 (g % 256).toUInt8 (h / 256).toUInt8
    (h % 256).toUInt8
  rw [mixedGroups, ofNat_halves, ofNat_halves] at hback
  have hfront : ([] : List UInt16).length < 8 := by decide
  rw [mappedText, address6?_pair hfront hback]
  rfl

/-- A run of zero groups reads back from the pair of colons that stands for it. -/
theorem address6?_compressed {front back : List UInt16} {zeros : Nat} (hzeros : 1 ≤ zeros)
    (h : front.length + zeros + back.length = 8) :
    address6? (groupsText front ++ ':' :: ':' :: groupsText back) =
      (ofGroups? (front ++ List.replicate zeros 0 ++ back)).map fun a => (a, []) := by
  have hback : groups? true (7 - front.length) (groupsText back) = (back, false, []) :=
    groups?_groupsText_nil (by omega)
  have hcount : 8 - front.length - back.length = zeros := by omega
  rw [address6?_pair (by omega) hback, hcount]

theorem address6?_full {gs : List UInt16} (h : gs.length = 8) :
    address6? (groupsText gs) = (ofGroups? gs).map fun a => (a, []) := by
  rw [address6?, groups?_groupsText_nil h.le]
  simp only [h, if_true]

/-- The three forms of a canonical text. -/
theorem text6_cases {gs : List UInt16} (h : gs.length = 8) :
    (∃ g h, gs = [0, 0, 0, 0, 0, 0xFFFF, g, h] ∧ text6 gs = mappedText g h) ∨
      (∃ front back zeros, 1 ≤ zeros ∧ gs = front ++ List.replicate zeros 0 ++ back ∧
        text6 gs = groupsText front ++ ':' :: ':' :: groupsText back) ∨
      text6 gs = groupsText gs := by
  unfold text6
  split
  · exact .inl ⟨_, _, rfl, rfl⟩
  · right
    obtain ⟨front, back, hstart, hgs⟩ := longestZeros_spec 0 gs
    generalize longestZeros 0 gs = zeros at hstart hgs
    obtain ⟨start, count⟩ := zeros
    simp only [Nat.zero_add] at hstart hgs
    simp only
    split
    · refine .inl ⟨front, back, count, by omega, hgs, ?_⟩
      have hfront : gs.take start = front := by
        rw [hgs, hstart, List.append_assoc, List.take_left']
        rfl
      have hback : gs.drop (start + count) = back := by
        rw [hgs, List.drop_left']
        simp [hstart]
      rw [hfront, hback]
    · exact .inr rfl

theorem address6?_text6 {gs : List UInt16} (h : gs.length = 8) :
    address6? (text6 gs) = (ofGroups? gs).map fun a => (a, []) := by
  rcases text6_cases h with ⟨g, g', rfl, htext⟩ | ⟨front, back, zeros, hzeros, rfl, htext⟩ | htext
  · rw [htext, address6?_mapped]
  · simp only [List.length_append, List.length_replicate] at h
    rw [htext, address6?_compressed hzeros h]
  · rw [htext, address6?_full h]

theorem quad?_groupsText {gs : List UInt16} {rest : List Char} (h : EndsGroup rest) :
    quad? (groupsText gs ++ rest) = none := by
  cases gs with
  | nil => exact quad?_of_endsGroup h
  | cons g gs =>
    rw [groupsText_cons, List.append_assoc]
    exact quad?_groupText g (endsGroup_laterText gs h)

/-- The text of an address of version 6 does not begin with one of version 4. -/
theorem quad?_text6 {gs : List UInt16} (h : gs.length = 8) : quad? (text6 gs) = none := by
  have hpair : ∀ {rest}, EndsGroup (':' :: rest) := by simp [EndsGroup]
  rcases text6_cases h with ⟨g, g', -, htext⟩ | ⟨front, back, -, -, -, htext⟩ | htext
  · rw [htext, mappedText, quad?_groupsText hpair]
  · rw [htext, quad?_groupsText hpair]
  · rw [htext, ← List.append_nil (groupsText gs), quad?_groupsText (by simp [EndsGroup])]

/-- The canonical text of an address names it. -/
theorem parse?_text (a : IpAddress) : parse? a.text = some a := by
  cases a with
  | v4 a b c d =>
    rw [parse?, text, quad?_text4_nil]
    rfl
  | v6 groups =>
    rw [parse?, text, quad?_text6 Vector.length_toList,
      address6?_text6 Vector.length_toList, ofGroups?_toList]
    rfl

end IpAddress

end NearbyBeacons
