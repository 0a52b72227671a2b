import Mathlib.Data.List.Nodup
import NearbyBeacons.Proofs.Roster.Run
import NearbyBeacons.Proofs.Text.Ascii
/-!
# Letter case of tracked addresses

An observation is looked up by its address in upper case, among the addresses as they are
tracked. It finds every beacon whose address it shares apart from letter case exactly when each
tracked address is tracked in upper case as well (`record_ignores_case_iff`). A roster that is
given beacons in upper case tracks no other ones after any run (`run_isUpper`), and never two
whose addresses agree apart from letter case (`run_areApart`). A roster that is given a beacon in
lower case does not find it again (`record_misses_lowerCase`).
-/

namespace NearbyBeacons

@[simp] theorem DeviceAddress.normal_normal (address : String) :
    normal (normal address) = normal address :=
  Ascii.lower_eq_iff_upper_eq.mp (Ascii.lower_upper address)

namespace Roster

/-! ### Addresses in upper case -/

/-- All addresses are in upper case, as those of observations are when they are looked up. -/
def IsUpper (beacons : List Beacon) : Prop :=
  ∀ b ∈ beacons, DeviceAddress.normal b.address = b.address

/-- No two addresses agree apart from letter case. -/
def AreApart (beacons : List Beacon) : Prop :=
  (beacons.map fun b => DeviceAddress.normal b.address).Nodup

/-- A beacon with the address of the observation, letter case aside, has been updated in its
place, and no other has changed. -/
def UpdatesInPlace (now : Instant) (o : Observation) (before after : List Beacon) : Prop :=
  ∃ front b back, before = front ++ b :: back ∧
    DeviceAddress.normal b.address = DeviceAddress.normal o.address ∧
    after = front ++ update o (o.sightedAt now) b :: back

theorem IsUpper.map_normal {beacons : List Beacon} (h : IsUpper beacons) :
    beacons.map (fun b => DeviceAddress.normal b.address) = beacons.map (·.address) :=
  List.map_congr_left h

theorem IsUpper.areApart_iff {beacons : List Beacon} (h : IsUpper beacons) :
    AreApart beacons ↔ (beacons.map (·.address)).Nodup := by
  rw [AreApart, h.map_normal]

theorem isUpper_iff {beacons : List Beacon} :
    IsUpper beacons ↔
      ∀ address ∈ beacons.map (·.address), DeviceAddress.normal address = address := by
  simp [IsUpper]

/-! ### Steps and runs -/

theorem step_isUpper {r : Roster} (h : IsUpper r.beacons) (s : Step) :
    IsUpper (r.step s).roster.beacons := by
  rw [step_beacons]
  cases s with
  | filter query => exact h
  | record now o =>
    rw [isUpper_iff] at h ⊢
    rw [Step.onBeacons, map_address_recordedIn]
    split
    · exact h
    · intro address hmem
      rcases List.mem_append.mp hmem with hold | hnew
      · exact h address hold
      · rw [List.mem_singleton.mp hnew, DeviceAddress.normal_normal]
  | expire now timeout => exact fun b hb => h b (List.mem_filter.mp hb).1

theorem run_isUpper {r : Roster} (h : IsUpper r.beacons) (steps : List Step) :
    IsUpper (r.run steps).roster.beacons :=
  run_induction (P := fun _ after => IsUpper after.beacons) r h
    (fun _ s ih => step_isUpper ih s) steps

/-- Beacons in upper case that are apart stay apart. -/
theorem step_areApart {r : Roster} (hupper : IsUpper r.beacons) (h : AreApart r.beacons)
    (s : Step) : AreApart (r.step s).roster.beacons := by
  rw [(step_isUpper hupper s).areApart_iff, step_beacons]
  rw [hupper.areApart_iff] at h
  cases s with
  | filter query => exact h
  | record now o =>
    rw [Step.onBeacons, map_address_recordedIn]
    split
    · exact h
    · next hnew => exact List.nodup_append.mpr ⟨h, List.nodup_singleton _, by simpa using hnew⟩
  | expire now timeout => exact (List.filter_sublist.map _).nodup h

theorem run_areApart {r : Roster} (hupper : IsUpper r.beacons) (h : AreApart r.beacons)
    (steps : List Step) : AreApart (r.run steps).roster.beacons := by
  have hboth : IsUpper (r.run steps).roster.beacons ∧ AreApart (r.run steps).roster.beacons :=
    run_induction (P := fun _ after => IsUpper after.beacons ∧ AreApart after.beacons) r
      ⟨hupper, h⟩ (fun _ s ih => ⟨step_isUpper ih.1 s, step_areApart ih.1 ih.2 s⟩) steps
  exact hboth.2

/-! ### Observations -/

/-- An observation that is not answered as that of a new beacon updates one in its place. -/
theorem record_updatesInPlace {r : Roster} {now : Instant} {o : Observation}
    (h : (r.record now o).answer.created = false) :
    UpdatesInPlace now o r.beacons (r.record now o).roster.beacons := by
  rw [created_eq_false_iff] at h
  rw [record_roster, recordedIn_of_tracked now h]
  obtain ⟨front, b, back, hbeacons, haddress, hupdated⟩ := exists_updateFirst_eq _ h
  exact ⟨front, b, back, hbeacons, by rw [haddress, DeviceAddress.normal_normal], hupdated⟩

/-- Where each address is tracked in upper case as well, letter case makes no difference. -/
theorem normal_mem_iff {beacons : List Beacon}
    (h : ∀ b ∈ beacons, DeviceAddress.normal b.address ∈ beacons.map (·.address))
    (address : String) :
    DeviceAddress.normal address ∈ beacons.map (·.address) ↔
      ∃ b ∈ beacons, DeviceAddress.normal b.address = DeviceAddress.normal address := by
  constructor
  · intro hmem
    obtain ⟨b, hb, haddress⟩ := List.mem_map.mp hmem
    exact ⟨b, hb, by rw [haddress, DeviceAddress.normal_normal]⟩
  · rintro ⟨b, hb, haddress⟩
    rw [← haddress]
    exact h b hb

/-- **When letter case does not split a radio into two beacons.** Observations find all beacons
with their address, letter case aside, exactly when each tracked address is tracked in upper case
as well. Where all are in upper case at first, this holds after every run: an observation is
answered as that of a known beacon exactly when some tracked address is the same apart from
letter case, and then a beacon of it is updated in its place; and addresses that are apart at
first are apart afterwards. -/
theorem record_ignores_case_iff (r : Roster) :
    ((∀ now o, (r.record now o).answer.created = false ↔
        ∃ b ∈ r.beacons, DeviceAddress.normal b.address = DeviceAddress.normal o.address) ↔
      ∀ b ∈ r.beacons, DeviceAddress.normal b.address ∈ r.beacons.map (·.address)) ∧
    (IsUpper r.beacons → ∀ steps now o,
      let reached := (r.run steps).roster
      let recorded := reached.record now o
      (recorded.answer.created = false ↔
          ∃ b ∈ reached.beacons,
            DeviceAddress.normal b.address = DeviceAddress.normal o.address) ∧
        (recorded.answer.created = false →
          UpdatesInPlace now o reached.beacons recorded.roster.beacons) ∧
        (AreApart r.beacons → AreApart recorded.roster.beacons)) := by
  refine ⟨⟨?_, ?_⟩, ?_⟩
  · intro h b hb
    -- an observation with the address of the beacon itself
    have hfound := (h b.lastSeen { address := b.address, rssi := b.rssi }).mpr ⟨b, hb, rfl⟩
    rw [created_eq_false_iff] at hfound
    exact hfound
  · intro h now o
    rw [created_eq_false_iff]
    exact normal_mem_iff h o.address
  · intro hupper steps now o reached recorded
    have hreached : IsUpper reached.beacons := run_isUpper hupper steps
    refine ⟨?_, record_updatesInPlace, ?_⟩
    · rw [created_eq_false_iff]
      apply normal_mem_iff
      intro b hb
      rw [hreached b hb]
      exact List.mem_map_of_mem hb
    · intro hapart
      exact step_areApart hreached (run_areApart hupper hapart steps) (.record now o)

/-- A beacon that is tracked in upper case is found by its address in lower case, after another
one has come. -/
theorem record_finds_lowerCase :
    let now : Instant := ⟨0, 0, by decide, by decide, by decide, by decide⟩
    let r := ofBeacons [Beacon.seenAt "AA:BB:CC:DD:EE:FF" (-60) now] {}
    let reached := (r.run [.record now { address := "00:00:00:00:00:0a", rssi := -40 }]).roster
    let o : Observation := { address := "aa:bb:cc:dd:ee:ff", rssi := -50 }
    IsUpper r.beacons ∧ (reached.record now o).answer.created = false ∧
      UpdatesInPlace now o reached.beacons (reached.record now o).roster.beacons := by
  intro now r reached o
  have hupper : IsUpper r.beacons := by
    intro b hb
    rw [List.mem_singleton.mp hb]
    decide +kernel
  obtain ⟨-, hupdates, -⟩ := (record_ignores_case_iff r).2 hupper
    [.record now { address := "00:00:00:00:00:0a", rssi := -40 }] now o
  have hcreated : (reached.record now o).answer.created = false := by decide +kernel
  exact ⟨hupper, hcreated, hupdates hcreated⟩

/-- A beacon that is tracked in lower case is not found by its address in upper case: a second
beacon of the same radio comes to be tracked. -/
theorem record_misses_lowerCase :
    let now : Instant := ⟨0, 0, by decide, by decide, by decide, by decide⟩
    let b := Beacon.seenAt "aa:bb:cc:dd:ee:ff" (-60) now
    let r := ofBeacons [b] {}
    let o : Observation := { address := "AA:BB:CC:DD:EE:FF", rssi := -50 }
    (DeviceAddress.normal b.address = DeviceAddress.normal o.address ∧
        (r.record now o).answer.created = true) ∧
      AreApart r.beacons ∧ ¬AreApart (r.record now o).roster.beacons := by
  unfold AreApart
  decide +kernel

end Roster

end NearbyBeacons
