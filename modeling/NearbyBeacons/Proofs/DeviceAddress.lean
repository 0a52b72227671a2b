import Mathlib.Computability.Language
import Mathlib.Data.Fintype.BigOperators
import Mathlib.Tactic.NormNum
import NearbyBeacons.DeviceAddress
import NearbyBeacons.Proofs.Text.Ascii
/-!
# The grammar of device addresses

An address is valid if it matches the pattern of addresses as a whole (`isValid_iff_mem_pattern`),
and that is the text of six groups of two hexadecimal digits (`isValid_iff`). In normal
form the digits are upper-case ones (`isNormal_normal`), and two addresses in normal form that
agree apart from letter case are equal (`IsNormal.sameLetters_iff`). There are `2 ^ 48` of them,
which bounds every list of distinct ones (`length_le_of_isNormal`).
-/

namespace NearbyBeacons.DeviceAddress

open Ascii (isHexDigit upperHexDigits)

/-! ### The check -/

/-- One group is two digits. -/
theorem isGroups_zero_iff {cs : List Char} :
    isGroups 0 cs = true ↔ ∃ a b, isHexDigit a = true ∧ isHexDigit b = true ∧ cs = [a, b] := by
  constructor
  · intro h
    match cs, h with
    | [a, b], h =>
      rw [isGroups, Bool.and_eq_true] at h
      exact ⟨a, b, h.1, h.2, rfl⟩
  · rintro ⟨a, b, ha, hb, rfl⟩
    rw [isGroups, ha, hb]
    rfl

/-- More than one group is a group, a colon and the other groups. -/
theorem isGroups_succ_iff {n : Nat} {cs : List Char} :
    isGroups (n + 1) cs = true ↔ ∃ a b rest, isHexDigit a = true ∧ isHexDigit b = true ∧
      isGroups n rest = true ∧ cs = a :: b :: ':' :: rest := by
  constructor
  · generalize hcolons : n + 1 = colons
    fun_cases isGroups colons cs with
    | case1 => cases hcolons
    | case2 n a b rest =>
      cases hcolons
      rw [Bool.and_eq_true, Bool.and_eq_true]
      exact fun h => ⟨a, b, rest, h.1.1, h.1.2, h.2, rfl⟩
    | case3 => nofun
  · rintro ⟨a, b, rest, ha, hb, hrest, rfl⟩
    rw [isGroups, ha, hb, hrest]
    rfl

/-! ### The pattern -/

/-- The texts of `[0-9A-Fa-f]`. -/
def digit : Language Char :=
  {cs | ∃ c, ('0' ≤ c ∧ c ≤ '9' ∨ 'A' ≤ c ∧ c ≤ 'F' ∨ 'a' ≤ c ∧ c ≤ 'f') ∧ cs = [c]}

/-- The texts of `([0-9A-Fa-f]{2}:){colons}[0-9A-Fa-f]{2}`. -/
def patternOf (colons : Nat) : Language Char := (digit ^ 2 * {[':']}) ^ colons * digit ^ 2

/-- The texts of the pattern of addresses, `([0-9A-Fa-f]{2}:){5}[0-9A-Fa-f]{2}`. -/
def pattern : Language Char := patternOf 5

theorem mem_digit_iff {cs : List Char} : cs ∈ digit ↔ ∃ c, isHexDigit c = true ∧ cs = [c] := by
  simp only [Ascii.isHexDigit_iff_mem_ranges]
  rfl

/-- Twice a digit is two digits, one after the other. -/
theorem mem_digit_sq_iff {cs : List Char} :
    cs ∈ digit ^ 2 ↔ ∃ a b, isHexDigit a = true ∧ isHexDigit b = true ∧ cs = [a, b] := by
  rw [pow_two, Language.mem_mul]
  simp only [mem_digit_iff]
  constructor
  · rintro ⟨_, ⟨a, ha, rfl⟩, _, ⟨b, hb, rfl⟩, rfl⟩
    exact ⟨a, b, ha, hb, rfl⟩
  · rintro ⟨a, b, ha, hb, rfl⟩
    exact ⟨[a], ⟨a, ha, rfl⟩, [b], ⟨b, hb, rfl⟩, rfl⟩

theorem mem_patternOf_zero_iff {cs : List Char} :
    cs ∈ patternOf 0 ↔ ∃ a b, isHexDigit a = true ∧ isHexDigit b = true ∧ cs = [a, b] := by
  rw [patternOf, pow_zero, one_mul, mem_digit_sq_iff]

/-- A text of more than one group begins with a group and a colon. -/
theorem mem_patternOf_succ_iff {n : Nat} {cs : List Char} :
    cs ∈ patternOf (n + 1) ↔ ∃ a b rest, isHexDigit a = true ∧ isHexDigit b = true ∧
      rest ∈ patternOf n ∧ cs = a :: b :: ':' :: rest := by
  rw [patternOf, pow_succ', mul_assoc, mul_assoc, ← patternOf, Language.mem_mul]
  simp only [mem_digit_sq_iff, Language.mem_mul]
  constructor
  · rintro ⟨_, ⟨a, b, ha, hb, rfl⟩, _, ⟨_, rfl, rest, hrest, rfl⟩, rfl⟩
    exact ⟨a, b, rest, ha, hb, hrest, rfl⟩
  · rintro ⟨a, b, rest, ha, hb, hrest, rfl⟩
    exact ⟨[a, b], ⟨a, b, ha, hb, rfl⟩, ':' :: rest, ⟨[':'], rfl, rest, hrest, rfl⟩, rfl⟩

/-- The check of groups accepts the texts of their pattern. -/
theorem isGroups_iff_mem_patternOf {n : Nat} {cs : List Char} :
    isGroups n cs = true ↔ cs ∈ patternOf n := by
  induction n generalizing cs with
  | zero => rw [isGroups_zero_iff, mem_patternOf_zero_iff]
  | succ n ih =>
    rw [isGroups_succ_iff, mem_patternOf_succ_iff]
    simp only [ih]

/-- **An address is valid when the whole of it matches the pattern.** -/
theorem isValid_iff_mem_pattern {address : String} :
    isValid address = true ↔ address.toList ∈ pattern :=
  isGroups_iff_mem_patternOf

/-! ### Groups -/

/-- The text of groups of two characters with a colon between them. -/
def joined (groups : List (Char × Char)) : List Char :=
  [':'].intercalate (groups.map fun g => [g.1, g.2])

@[simp] theorem joined_singleton (g : Char × Char) : joined [g] = [g.1, g.2] :=
  List.intercalate_singleton

theorem joined_cons {groups : List (Char × Char)} (g : Char × Char) (h : groups ≠ []) :
    joined (g :: groups) = g.1 :: g.2 :: ':' :: joined groups := by
  unfold joined
  rw [List.map_cons, List.intercalate_cons_of_ne_nil]
  · rfl
  · exact mt List.map_eq_nil_iff.mp h

/-- Upper-casing leaves the colons where they are. -/
theorem map_toUpper_joined (groups : List (Char × Char)) :
    (joined groups).map Char.toUpper =
      joined (groups.map (Prod.map Char.toUpper Char.toUpper)) := by
  induction groups with
  | nil => rfl
  | cons g groups ih =>
    by_cases h : groups = []
    · rw [h]
      rfl
    · have hne : groups.map (Prod.map Char.toUpper Char.toUpper) ≠ [] :=
        mt List.map_eq_nil_iff.mp h
      show _ = joined (Prod.map Char.toUpper Char.toUpper g :: _)
      rw [joined_cons g h, joined_cons _ hne, ← ih]
      rfl

/-- The check of groups accepts the texts of groups of two digits. -/
theorem isGroups_iff {n : Nat} {cs : List Char} :
    isGroups n cs = true ↔ ∃ groups : List (Char × Char), groups.length = n + 1 ∧
      (∀ g ∈ groups, isHexDigit g.1 = true ∧ isHexDigit g.2 = true) ∧ cs = joined groups := by
  induction n generalizing cs with
  | zero =>
    rw [isGroups_zero_iff]
    constructor
    · rintro ⟨a, b, ha, hb, rfl⟩
      exact ⟨[(a, b)], rfl, by simpa using ⟨ha, hb⟩, rfl⟩
    · rintro ⟨groups, hlength, hdigits, rfl⟩
      obtain ⟨g, rfl⟩ := List.length_eq_one_iff.mp hlength
      have hg := hdigits g List.mem_cons_self
      exact ⟨g.1, g.2, hg.1, hg.2, joined_singleton g⟩
  | succ n ih =>
    rw [isGroups_succ_iff]
    constructor
    · rintro ⟨a, b, rest, ha, hb, hrest, rfl⟩
      obtain ⟨groups, hlength, hdigits, rfl⟩ := ih.mp hrest
      refine ⟨(a, b) :: groups, by rw [List.length_cons, hlength], ?_, ?_⟩
      · exact List.forall_mem_cons.mpr ⟨⟨ha, hb⟩, hdigits⟩
      · rw [joined_cons _ (List.ne_nil_of_length_eq_add_one hlength)]
    · rintro ⟨groups, hlength, hdigits, rfl⟩
      obtain ⟨g, groups, rfl⟩ := List.exists_cons_of_length_eq_add_one hlength
      have hrest : groups.length = n + 1 := Nat.succ.inj hlength
      have hg := List.forall_mem_cons.mp hdigits
      exact ⟨g.1, g.2, joined groups, hg.1.1, hg.1.2, ih.mpr ⟨groups, hrest, hg.2, rfl⟩,
        joined_cons g (List.ne_nil_of_length_eq_add_one hrest)⟩

/-! ### Addresses -/

/-- Six groups of two hexadecimal digits, of either case, with a colon between them. -/
def IsGrouped (address : String) : Prop :=
  ∃ groups : List (Char × Char), groups.length = 6 ∧
    (∀ g ∈ groups, isHexDigit g.1 = true ∧ isHexDigit g.2 = true) ∧
    address.toList = joined groups

theorem isValid_iff {address : String} : isValid address = true ↔ IsGrouped address :=
  isGroups_iff

/-- Six groups of two upper-case hexadecimal digits with a colon between them. -/
def IsNormal (address : String) : Prop :=
  ∃ groups : List (Char × Char), groups.length = 6 ∧
    (∀ g ∈ groups, g.1 ∈ upperHexDigits ∧ g.2 ∈ upperHexDigits) ∧
    address.toList = joined groups

/-- The upper-case form of a valid address is in normal form. -/
theorem isNormal_normal {address : String} (h : IsGrouped address) :
    IsNormal (normal address) := by
  obtain ⟨groups, hlength, hdigits, hjoined⟩ := h
  refine ⟨groups.map (Prod.map Char.toUpper Char.toUpper), ?_, ?_, ?_⟩
  · rw [List.length_map, hlength]
  · intro g hg
    obtain ⟨c, hc, rfl⟩ := List.mem_map.mp hg
    exact ⟨Ascii.isHexDigit_iff.mp (hdigits c hc).1, Ascii.isHexDigit_iff.mp (hdigits c hc).2⟩
  · rw [normal, Ascii.toList_upper, hjoined, map_toUpper_joined]

/-- An address in normal form is its own upper-case form. -/
theorem IsNormal.normal_eq {address : String} (h : IsNormal address) :
    normal address = address := by
  obtain ⟨groups, -, hdigits, hjoined⟩ := h
  have hmap : groups.map (Prod.map Char.toUpper Char.toUpper) = groups := by
    have hsame : ∀ g ∈ groups, Prod.map Char.toUpper Char.toUpper g = g := by
      intro g hg
      exact Prod.ext (Ascii.toUpper_of_mem_upperHexDigits (hdigits g hg).1)
        (Ascii.toUpper_of_mem_upperHexDigits (hdigits g hg).2)
    rw [List.map_congr_left hsame, List.map_id']
  rw [← String.toList_inj, normal, Ascii.toList_upper, hjoined, map_toUpper_joined, hmap]

/-- Addresses in normal form that agree apart from letter case are equal. -/
theorem IsNormal.sameLetters_iff {a b : String} (ha : IsNormal a) (hb : IsNormal b) :
    Ascii.sameLetters a b = true ↔ a = b := by
  rw [Ascii.sameLetters_iff]
  show normal a = normal b ↔ _
  rw [ha.normal_eq, hb.normal_eq]

/-! ### Counting addresses -/

/-- The group of two upper-case hexadecimal digits with the given places among the digits. -/
def group (places : Fin 16 × Fin 16) : Char × Char :=
  (upperHexDigits[places.1], upperHexDigits[places.2])

theorem exists_group {g : Char × Char} (h : g.1 ∈ upperHexDigits ∧ g.2 ∈ upperHexDigits) :
    ∃ places, group places = g := by
  obtain ⟨i, hi, hfirst⟩ := List.getElem_of_mem h.1
  obtain ⟨j, hj, hsecond⟩ := List.getElem_of_mem h.2
  exact ⟨(⟨i, hi⟩, ⟨j, hj⟩), Prod.ext hfirst hsecond⟩

/-- The address in normal form with the given groups. -/
def ofPlaces (places : Fin 6 → Fin 16 × Fin 16) : String :=
  String.ofList (joined (List.ofFn fun i => group (places i)))

theorem IsNormal.exists_ofPlaces {address : String} (h : IsNormal address) :
    ∃ places, ofPlaces places = address := by
  obtain ⟨groups, hlength, hdigits, hjoined⟩ := h
  have hplaces : ∀ i : Fin 6, ∃ places, group places = groups[i] := fun i =>
    exists_group (hdigits _ (List.getElem_mem _))
  choose places hgroup using hplaces
  have hgroups : List.ofFn (fun i => group (places i)) = groups := by
    apply List.ext_getElem
    · rw [List.length_ofFn, hlength]
    · intro i hi _
      rw [List.getElem_ofFn]
      exact hgroup ⟨i, _⟩
  refine ⟨places, ?_⟩
  rw [ofPlaces, hgroups, ← hjoined, String.ofList_toList]

/-- There are no more than `2 ^ 48` addresses in normal form. -/
theorem length_le_of_isNormal {addresses : List String} (hnodup : addresses.Nodup)
    (h : ∀ address ∈ addresses, IsNormal address) : addresses.length ≤ 2 ^ 48 := by
  have hplaces : ∀ address ∈ addresses, ∃ places, ofPlaces places = address :=
    fun address hmem => (h address hmem).exists_ofPlaces
  choose! places hof using hplaces
  have hinj : ∀ a ∈ addresses, ∀ b ∈ addresses, places a = places b → a = b := by
    intro a ha b hb hab
    rw [← hof a ha, hab, hof b hb]
  calc addresses.length = (addresses.map places).length := (List.length_map _).symm
    _ ≤ Fintype.card (Fin 6 → Fin 16 × Fin 16) := (hnodup.map_on hinj).length_le_card
    _ = (16 * 16) ^ 6 := by simp
    _ = 2 ^ 48 := by norm_num

end NearbyBeacons.DeviceAddress
