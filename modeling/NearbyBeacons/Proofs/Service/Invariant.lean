import NearbyBeacons.Proofs.Observation
import NearbyBeacons.Proofs.Roster.Freshness
import NearbyBeacons.Proofs.Service.Run
/-!
# What holds of the service at all times

The service takes in valid observations only (`validate_of_mem_calls`), and a tracked beacon is
the sum of observations that were taken in. So what the checks say of observations holds of all
beacons, after any run (`run_sound`).
-/

namespace NearbyBeacons.Service

/-- The service takes in valid observations only. -/
theorem validate_of_mem_calls {settings : Settings} {steps : List Step} {now : Instant}
    {o : Observation} (h : .record now o ∈ calls settings steps) : o.validate = .ok () := by
  rcases call_cases h with ⟨query, hcall⟩ | ⟨now', o', hcall, hvalid⟩ | ⟨now', hcall⟩
  · cases hcall
  · cases hcall
    exact hvalid
  · cases hcall

/-! ### Soundness -/

/-- What holds of a service that started with `settings` and has used the clock `readings`. -/
structure Sound (settings : Settings) (readings : List Instant) (s : Service) : Prop where
  settings_eq : s.settings = settings
  labels_eq : s.roster.labels = settings.display
  /-- Addresses differ, and not only in the case of letters. -/
  distinct : (s.roster.beacons.map (·.address)).Pairwise fun a b =>
    a ≠ b ∧ Ascii.sameLetters a b = false
  normal : ∀ b ∈ s.roster.beacons, DeviceAddress.IsNormal b.address
  rssi : ∀ b ∈ s.roster.beacons, -128 ≤ b.rssi.toInt ∧ b.rssi.toInt ≤ 127
  txPower : ∀ b ∈ s.roster.beacons,
    -128 ≤ b.uidFrame.txPower.toInt ∧ b.uidFrame.txPower.toInt ≤ 127
  lastSeen : ∀ b ∈ s.roster.beacons, ∃ latest, readings.max? = some latest ∧ b.lastSeen ≤ latest
  /-- Without a frame, what is kept of one is empty. -/
  noFrame : ∀ b ∈ s.roster.beacons, b.hasUidFrame = false → b.uidFrame = {}

/-- The roster of the service tracks the calls that the steps come to. -/
theorem run_tracks (settings : Settings) (steps : List Step) :
    Roster.Tracks (calls settings steps) ((start settings).run steps).roster.beacons := by
  rw [run_eq]
  exact Roster.run_tracks settings.display (calls settings steps)

theorem validate_of_mem_sightings {settings : Settings} {steps : List Step} {address : String}
    {s : Roster.Sighting} (h : s ∈ Roster.sightings address (calls settings steps)) :
    s.observation.validate = .ok () :=
  validate_of_mem_calls (Roster.mem_taken_iff.mp (Roster.mem_taken_of_mem_sightings h).1)

theorem isNormal_address {settings : Settings} {steps : List Step} {b : Beacon}
    (hb : b ∈ ((start settings).run steps).roster.beacons) :
    DeviceAddress.IsNormal b.address := by
  obtain ⟨s, hs, -⟩ := ((run_tracks settings steps).summarises b hb).lastSeen_mem
  have hvalid := Observation.validate_eq_ok_iff.mp (validate_of_mem_sightings hs)
  rw [← (Roster.mem_taken_of_mem_sightings hs).2]
  exact DeviceAddress.isNormal_normal hvalid.address

theorem fitsByte_rssi {settings : Settings} {steps : List Step} {b : Beacon}
    (hb : b ∈ ((start settings).run steps).roster.beacons) : Observation.FitsByte b.rssi := by
  obtain ⟨s, hs, hrssi⟩ := ((run_tracks settings steps).summarises b hb).exists_rssi
  have hvalid := Observation.validate_eq_ok_iff.mp (validate_of_mem_sightings hs)
  rw [← hrssi]
  exact hvalid.rssi

theorem fitsByte_txPower {settings : Settings} {steps : List Step} {b : Beacon}
    (hb : b ∈ ((start settings).run steps).roster.beacons) :
    Observation.FitsByte b.uidFrame.txPower := by
  rcases ((run_tracks settings steps).summarises b hb).uidFrame_cases with
    ⟨-, hempty⟩ | ⟨-, s, hs, hframe⟩
  · rw [hempty]
    constructor <;> decide
  · have hvalid := Observation.validate_eq_ok_iff.mp (validate_of_mem_sightings hs)
    exact hvalid.txPower _ hframe

/-- **Every run of the service leaves it sound**, whatever the settings and in whatever order
requests and sweeps come. -/
theorem run_sound (settings : Settings) (steps : List Step) :
    Sound settings (Roster.readings (calls settings steps)) ((start settings).run steps) where
  settings_eq := by
    rw [run_eq]
    rfl
  labels_eq := by
    rw [run_eq]
    exact Roster.run_labels _ _
  distinct := by
    refine (run_tracks settings steps).nodup.imp_of_mem ?_
    intro a c ha hc hne
    obtain ⟨b, hb, rfl⟩ := List.mem_map.mp ha
    obtain ⟨d, hd, rfl⟩ := List.mem_map.mp hc
    refine ⟨hne, ?_⟩
    rw [← Bool.not_eq_true, (isNormal_address hb).sameLetters_iff (isNormal_address hd)]
    exact hne
  normal _ hb := isNormal_address hb
  rssi _ hb := fitsByte_rssi hb
  txPower _ hb := fitsByte_txPower hb
  lastSeen _ hb := (run_tracks settings steps).lastSeen_le hb
  noFrame b hb hfalse := by
    rcases ((run_tracks settings steps).summarises b hb).uidFrame_cases with
      ⟨-, hempty⟩ | ⟨htrue, -⟩
    · exact hempty
    · rw [htrue] at hfalse
      cases hfalse

end NearbyBeacons.Service
