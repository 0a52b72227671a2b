import NearbyBeacons.Proofs.DeviceAddress
import NearbyBeacons.Proofs.Roster.Run
/-!
# Addresses and radios

A radio is told by six bytes, and its address writes them as groups of two hexadecimal digits of
either case (`Writes`). The addresses that pass the check are the texts that write six bytes
(`isValid_iff_exists_writes`). An address in normal form writes them in one way only
(`Writes.normal_eq`), so that the normal form stands for the radio: two observations go to one
beacon exactly when their addresses write the same bytes (`address_identifies_radio`).
-/

namespace NearbyBeacons

namespace DeviceAddress

open Ascii (hexDigit hexDigitLower hexValue? isHexDigit)

/-! ### Groups and bytes -/

/-- A digit, in upper or in lower case, that stands for a value below sixteen. -/
def IsDigitOf (n : Nat) (c : Char) : Prop := n < 16 ∧ (c = hexDigit n ∨ c = hexDigitLower n)

/-- A group of two digits that writes a byte, its upper half first. -/
def IsGroupOf (byte : UInt8) (g : Char × Char) : Prop :=
  IsDigitOf (byte.toNat / 16) g.1 ∧ IsDigitOf (byte.toNat % 16) g.2

instance (n : Nat) (c : Char) : Decidable (IsDigitOf n c) :=
  inferInstanceAs (Decidable (_ ∧ _))

instance (byte : UInt8) (g : Char × Char) : Decidable (IsGroupOf byte g) :=
  inferInstanceAs (Decidable (_ ∧ _))

/-- The group that writes a byte in upper case. -/
def groupOf (byte : UInt8) : Char × Char :=
  (hexDigit (byte.toNat / 16), hexDigit (byte.toNat % 16))

theorem isDigitOf_iff {n : Nat} {c : Char} : IsDigitOf n c ↔ hexValue? c = some n :=
  Ascii.hexValue?_eq_some_iff.symm

theorem IsDigitOf.isHexDigit {n : Nat} {c : Char} (h : IsDigitOf n c) : isHexDigit c = true := by
  rw [Ascii.isHexDigit, isDigitOf_iff.mp h]
  rfl

theorem exists_isDigitOf {c : Char} (h : isHexDigit c = true) : ∃ n, IsDigitOf n c := by
  obtain ⟨n, hn⟩ := Option.isSome_iff_exists.mp h
  exact ⟨n, isDigitOf_iff.mpr hn⟩

/-- Every group of two digits writes a byte. -/
theorem exists_isGroupOf {g : Char × Char} (h : isHexDigit g.1 = true ∧ isHexDigit g.2 = true) :
    ∃ byte, IsGroupOf byte g := by
  obtain ⟨m, hm⟩ := exists_isDigitOf h.1
  obtain ⟨n, hn⟩ := exists_isDigitOf h.2
  have hm16 : m < 16 := hm.1
  have hn16 : n < 16 := hn.1
  have hbyte : (UInt8.ofNat (16 * m + n)).toNat = 16 * m + n := by
    rw [UInt8.toNat_ofNat']
    omega
  refine ⟨UInt8.ofNat (16 * m + n), ?_, ?_⟩
  · rw [hbyte, show (16 * m + n) / 16 = m by omega]
    exact hm
  · rw [hbyte, show (16 * m + n) % 16 = n by omega]
    exact hn

/-- In upper case, a group is told by its byte. -/
theorem IsGroupOf.map_toUpper {byte : UInt8} {g : Char × Char} (h : IsGroupOf byte g) :
    Prod.map Char.toUpper Char.toUpper g = groupOf byte :=
  Prod.ext (Ascii.toUpper_of_hexValue? (isDigitOf_iff.mp h.1))
    (Ascii.toUpper_of_hexValue? (isDigitOf_iff.mp h.2))

theorem isGroupOf_groupOf (byte : UInt8) : IsGroupOf byte (groupOf byte) := by
  have hlt : byte.toNat < 256 := byte.toNat_lt
  exact ⟨⟨by omega, .inl rfl⟩, by omega, .inl rfl⟩

/-- Two bytes that one group writes are the same. -/
theorem IsGroupOf.unique {b c : UInt8} {g : Char × Char} (hb : IsGroupOf b g)
    (hc : IsGroupOf c g) : b = c := by
  have hupper : b.toNat / 16 = c.toNat / 16 := by
    have h := isDigitOf_iff.mp hb.1
    rw [isDigitOf_iff.mp hc.1] at h
    exact (Option.some.inj h).symm
  have hlower : b.toNat % 16 = c.toNat % 16 := by
    have h := isDigitOf_iff.mp hb.2
    rw [isDigitOf_iff.mp hc.2] at h
    exact (Option.some.inj h).symm
  rw [← UInt8.toNat_inj]
  omega

theorem groupOf_injective : Function.Injective groupOf := fun b c h =>
  (isGroupOf_groupOf b).unique (h ▸ isGroupOf_groupOf c)

/-- Joining loses no group: each stands at a place of its own. -/
theorem joined_inj {gs hs : List (Char × Char)} (hlength : gs.length = hs.length)
    (h : joined gs = joined hs) : gs = hs := by
  induction gs generalizing hs with
  | nil => exact (List.eq_nil_of_length_eq_zero hlength.symm).symm
  | cons g gs ih =>
    obtain ⟨k, hs, rfl⟩ := List.exists_cons_of_length_eq_add_one hlength.symm
    have hrest : gs.length = hs.length := Nat.succ.inj hlength
    -- the last group has no colon behind it
    by_cases hgs : gs = []
    · subst hgs
      obtain rfl := List.eq_nil_of_length_eq_zero hrest.symm
      rw [joined_singleton, joined_singleton, List.cons.injEq, List.cons.injEq] at h
      rw [Prod.ext h.1 h.2.1]
    · have hhs : hs ≠ [] := by
        rintro rfl
        exact hgs (List.eq_nil_of_length_eq_zero hrest)
      rw [joined_cons g hgs, joined_cons k hhs] at h
      simp only [List.cons.injEq, true_and] at h
      obtain ⟨hfirst, hsecond, htail⟩ := h
      rw [ih hrest htail, Prod.ext hfirst hsecond]

/-! ### Addresses and bytes -/

/-- An address that writes six bytes: each as two digits of either case, with a colon between
two of them, and nothing else. -/
def Writes (address : String) (bytes : Vector UInt8 6) : Prop :=
  ∃ groups : List (Char × Char), List.Forall₂ IsGroupOf bytes.toList groups ∧
    address.toList = joined groups

/-- The address of a radio in normal form. -/
def ofBytes (bytes : Vector UInt8 6) : String := String.ofList (joined (bytes.toList.map groupOf))

theorem ofBytes_injective : Function.Injective ofBytes := by
  intro b c h
  have hjoined : joined (b.toList.map groupOf) = joined (c.toList.map groupOf) := by
    rw [← String.ofList_inj]
    exact h
  have hgroups := joined_inj (by simp) hjoined
  exact Vector.toList_inj.mp (List.map_injective_iff.mpr groupOf_injective hgroups)

theorem writes_ofBytes (bytes : Vector UInt8 6) : Writes (ofBytes bytes) bytes := by
  refine ⟨bytes.toList.map groupOf, ?_, String.toList_ofList⟩
  rw [List.forall₂_map_right_iff, List.forall₂_same]
  exact fun byte _ => isGroupOf_groupOf byte

/-- The addresses that pass the check are those that write six bytes. -/
theorem isValid_iff_exists_writes {address : String} :
    isValid address = true ↔ ∃ bytes, Writes address bytes := by
  rw [isValid_iff]
  constructor
  · rintro ⟨groups, hlength, hdigits, hjoined⟩
    have hbytes : ∀ g ∈ groups, ∃ byte, IsGroupOf byte g := fun g hg =>
      exists_isGroupOf (hdigits g hg)
    choose! byteOf hbyteOf using hbytes
    refine ⟨⟨(groups.map byteOf).toArray, by simp [hlength]⟩, groups, ?_, hjoined⟩
    show List.Forall₂ IsGroupOf (groups.map byteOf) groups
    rw [List.forall₂_map_left_iff, List.forall₂_same]
    exact hbyteOf
  · rintro ⟨bytes, groups, hgroups, hjoined⟩
    refine ⟨groups, ?_, ?_, hjoined⟩
    · rw [← hgroups.length_eq, Vector.length_toList]
    · intro g hg
      obtain ⟨i, hi, rfl⟩ := List.getElem_of_mem hg
      have hbyte := hgroups.get (hgroups.length_eq ▸ hi) hi
      exact ⟨hbyte.1.isHexDigit, hbyte.2.isHexDigit⟩

/-- In normal form, an address is told by its bytes. -/
theorem Writes.normal_eq {address : String} {bytes : Vector UInt8 6} (h : Writes address bytes) :
    normal address = ofBytes bytes := by
  obtain ⟨groups, hgroups, hjoined⟩ := h
  have hmap : List.Forall₂ (· = ·) (groups.map (Prod.map Char.toUpper Char.toUpper))
      (bytes.toList.map groupOf) := by
    rw [List.forall₂_map_left_iff, List.forall₂_map_right_iff]
    exact (hgroups.imp fun _ _ hg => hg.map_toUpper).flip
  rw [List.forall₂_eq_eq_eq] at hmap
  rw [← String.toList_inj, normal, Ascii.toList_upper, hjoined, map_toUpper_joined, hmap, ofBytes,
    String.toList_ofList]

/-- Addresses have one normal form exactly when they write the same bytes. -/
theorem Writes.normal_eq_iff {a b : String} {bytes bytes' : Vector UInt8 6} (ha : Writes a bytes)
    (hb : Writes b bytes') : normal a = normal b ↔ bytes = bytes' := by
  rw [ha.normal_eq, hb.normal_eq]
  exact ofBytes_injective.eq_iff

end DeviceAddress

/-! ### Radios and beacons -/

namespace Roster

open DeviceAddress (Writes isValid normal)

/-- After an observation its address is tracked, and no other one that was not before. -/
theorem mem_address_recordedIn (now : Instant) (o : Observation) (beacons : List Beacon)
    {address : String} :
    address ∈ (recordedIn now o beacons).map (·.address) ↔
      address = normal o.address ∨ address ∈ beacons.map (·.address) := by
  rw [map_address_recordedIn]
  split
  · next htracked =>
    constructor
    · exact .inr
    · rintro (rfl | hmem)
      · exact htracked
      · exact hmem
  · rw [List.mem_append, List.mem_singleton, or_comm]

/-- An observation finds a beacon that was tracked before, or the one of the observation just
before it. -/
theorem created_after_record_iff (r : Roster) (now now' : Instant) (o o' : Observation) :
    ((r.record now o).roster.record now' o').answer.created = false ↔
      normal o.address = normal o'.address ∨ (r.record now' o').answer.created = false := by
  rw [created_eq_false_iff, created_eq_false_iff, record_roster, mem_address_recordedIn, eq_comm]

/-- **A valid address names a radio, and its normal form is a key for it.** The addresses that
pass the check are the texts that write six bytes; two of them have one normal form exactly when
they write the same bytes; and a normal form passes the check and is its own normal form. So an
observation that comes right after another finds a beacon if both are of one radio, in whatever
case their addresses are written; and if they are not, it finds one exactly when it would have
found one without the other. -/
theorem address_identifies_radio :
    (∀ address, isValid address = true ↔ ∃ bytes, Writes address bytes) ∧
      (∀ a b bytes bytes', Writes a bytes → Writes b bytes' →
        (normal a = normal b ↔ bytes = bytes')) ∧
      (∀ address, isValid address = true →
        isValid (normal address) = true ∧ normal (normal address) = normal address) ∧
      ∀ (r : Roster) (now now' : Instant) (o o' : Observation) (bytes bytes' : Vector UInt8 6),
        Writes o.address bytes → Writes o'.address bytes' →
          (((r.record now o).roster.record now' o').answer.created = false ↔
            bytes = bytes' ∨ (r.record now' o').answer.created = false) := by
  refine ⟨fun address => DeviceAddress.isValid_iff_exists_writes, ?_, ?_, ?_⟩
  · intro a b bytes bytes' ha hb
    exact ha.normal_eq_iff hb
  · intro address hvalid
    obtain ⟨bytes, hwrites⟩ := DeviceAddress.isValid_iff_exists_writes.mp hvalid
    have hnormal := DeviceAddress.writes_ofBytes bytes
    rw [hwrites.normal_eq]
    exact ⟨DeviceAddress.isValid_iff_exists_writes.mpr ⟨bytes, hnormal⟩, hnormal.normal_eq⟩
  · intro r now now' o o' bytes bytes' ho ho'
    rw [created_after_record_iff, ho.normal_eq_iff ho']

/-- Two spellings of one address go to one beacon, and that of a neighbour does not. -/
theorem spellings_of_radio_meet :
    let now : Instant := ⟨0, 0, by decide, by decide, by decide, by decide⟩
    let bytes : Vector UInt8 6 := #v[0xAA, 0x0B, 0xC1, 0xD2, 0x3E, 0xFF]
    let neighbour : Vector UInt8 6 := #v[0xAA, 0x0B, 0xC1, 0xD2, 0x3E, 0xFE]
    let a : Observation := { address := "aA:0b:C1:d2:3E:ff", rssi := -60 }
    let b : Observation := { address := "AA:0B:c1:D2:3e:fF", rssi := -60 }
    let c : Observation := { address := "AA:0B:C1:D2:3E:FE", rssi := -60 }
    let r := ofBeacons [] {}
    (Writes a.address bytes ∧ Writes b.address bytes ∧ Writes c.address neighbour) ∧
      (isValid a.address = true ∧ isValid (normal a.address) = true ∧
        normal (normal a.address) = normal a.address) ∧
      (normal a.address = normal b.address ∧ normal a.address ≠ normal c.address) ∧
      ((r.record now a).roster.record now b).answer.created = false ∧
      ((r.record now a).roster.record now c).answer.created = true := by
  intro now bytes neighbour a b c r
  have ha : Writes a.address bytes :=
    ⟨[('a', 'A'), ('0', 'b'), ('C', '1'), ('d', '2'), ('3', 'E'), ('f', 'f')], by decide,
      by decide +kernel⟩
  have hb : Writes b.address bytes :=
    ⟨[('A', 'A'), ('0', 'B'), ('c', '1'), ('D', '2'), ('3', 'e'), ('f', 'F')], by decide,
      by decide +kernel⟩
  have hc : Writes c.address neighbour :=
    ⟨[('A', 'A'), ('0', 'B'), ('C', '1'), ('D', '2'), ('3', 'E'), ('F', 'E')], by decide,
      by decide +kernel⟩
  have hne : bytes ≠ neighbour := by decide
  obtain ⟨hvalid, hkey, hnormal, hrecord⟩ := address_identifies_radio
  have hva : isValid a.address = true := (hvalid a.address).mpr ⟨bytes, ha⟩
  refine ⟨⟨ha, hb, hc⟩, ⟨hva, hnormal a.address hva⟩, ⟨?_, ?_⟩, ?_, ?_⟩
  · exact (hkey a.address b.address bytes bytes ha hb).mpr rfl
  · exact mt (hkey a.address c.address bytes neighbour ha hc).mp hne
  · exact (hrecord r now now a b bytes bytes ha hb).mpr (.inl rfl)
  · rw [← Bool.not_eq_false, hrecord r now now a c bytes neighbour ha hc]
    rintro (heq | hfound)
    · exact hne heq
    · cases hfound

end Roster

end NearbyBeacons
