import Mathlib.Data.List.MinMax
import NearbyBeacons.Proofs.Roster.Run
import NearbyBeacons.Proofs.Time.Order
/-!
# Histories of tracked addresses

The history of an address in a run holds its observations since it was last removed, or since
the start. It is found without looking at any roster: an observation of another address leaves
it alone, and a removal clears it when the latest of its times is too long ago.

A roster that starts empty tracks exactly the addresses with a history, in the order in which
the histories begin, and every beacon sums its own history up (`Tracks`, kept by every step in
`tracks_step`). The main statement is `run_summarises_sightings`.
-/

namespace NearbyBeacons.Roster

/-! ### Histories -/

/-- An observation, and the clock reading at which it was taken in. -/
structure Sighting where
  now : Instant
  observation : Observation
  deriving DecidableEq, Repr

/-- When a sighting counts as made. -/
def Sighting.time (s : Sighting) : Instant := s.observation.sightedAt s.now

/-- Whether the latest of the sightings is within `timeout` before `now`. -/
def outlives (now : Instant) (timeout : Span) (sightings : List Sighting) : Bool :=
  (sightings.map (·.time)).max?.any fun latest => (now.since latest).le timeout

/-- The history of an address after one more step, which has the number `place` in the run. -/
def historyAfter (address : String) (place : Nat) (history : List (Nat × Sighting)) :
    Step → List (Nat × Sighting)
  | .filter _ => history
  | .record now o =>
    if DeviceAddress.normal o.address = address then history ++ [(place, ⟨now, o⟩)] else history
  | .expire now timeout => if outlives now timeout (history.map (·.2)) then history else []

/-- The sightings of an address since it was last removed, each with the number of its step. -/
def history (address : String) (steps : List Step) : List (Nat × Sighting) :=
  steps.zipIdx.foldl (fun history (s, place) => historyAfter address place history s) []

/-- The sightings of an address since it was last removed. -/
def sightings (address : String) (steps : List Step) : List Sighting :=
  (history address steps).map (·.2)

/-- The number of the step with which the history of an address begins. -/
def firstPlace (address : String) (steps : List Step) : Nat :=
  ((history address steps).head?.map (·.1)).getD 0

@[simp] theorem history_nil (address : String) : history address [] = [] := rfl

@[simp] theorem sightings_nil (address : String) : sightings address [] = [] := rfl

theorem history_concat (address : String) (steps : List Step) (s : Step) :
    history address (steps ++ [s]) =
      historyAfter address steps.length (history address steps) s := by
  simp [history, List.zipIdx_append]

theorem sightings_filter (address : String) (steps : List Step) (query : Option String) :
    sightings address (steps ++ [.filter query]) = sightings address steps := by
  unfold sightings
  rw [history_concat]
  rfl

/-- An observation goes to the end of the sightings of its own address. -/
theorem sightings_record (address : String) (steps : List Step) (now : Instant)
    (o : Observation) :
    sightings address (steps ++ [.record now o]) =
      if DeviceAddress.normal o.address = address then sightings address steps ++ [⟨now, o⟩]
      else sightings address steps := by
  unfold sightings
  rw [history_concat]
  simp only [historyAfter]
  split
  · rw [List.map_append, List.map_singleton]
  · rfl

/-- A removal clears the sightings of an address unless they outlive it. -/
theorem sightings_removal (address : String) (steps : List Step) (now : Instant)
    (timeout : Span) :
    sightings address (steps ++ [.expire now timeout]) =
      if outlives now timeout (sightings address steps) then sightings address steps else [] := by
  unfold sightings
  rw [history_concat]
  simp only [historyAfter]
  split <;> rfl

theorem sightings_record_self (steps : List Step) (now : Instant) (o : Observation) :
    sightings (DeviceAddress.normal o.address) (steps ++ [.record now o]) =
      sightings (DeviceAddress.normal o.address) steps ++ [⟨now, o⟩] := by
  rw [sightings_record, if_pos rfl]

theorem sightings_record_of_ne {address : String} {o : Observation}
    (h : address ≠ DeviceAddress.normal o.address) (steps : List Step) (now : Instant) :
    sightings address (steps ++ [.record now o]) = sightings address steps := by
  rw [sightings_record, if_neg (Ne.symm h)]

theorem sightings_record_ne_nil {address : String} {steps : List Step}
    (h : sightings address steps ≠ []) (now : Instant) (o : Observation) :
    sightings address (steps ++ [.record now o]) ≠ [] := by
  by_cases heq : address = DeviceAddress.normal o.address
  · rw [heq, sightings_record_self]
    simp
  · rw [sightings_record_of_ne heq]
    exact h

theorem outlives_iff {now : Instant} {timeout : Span} {l : List Sighting} {latest : Instant}
    (hmem : ∃ s ∈ l, s.time = latest) (hle : ∀ s ∈ l, s.time ≤ latest) :
    outlives now timeout l = true ↔ (now.since latest).le timeout = true := by
  have hmax : (l.map (·.time)).max? = some latest := by
    rw [List.max?_eq_some_iff]
    constructor
    · exact List.mem_map.mpr hmem
    · intro t ht
      obtain ⟨s, hs, rfl⟩ := List.mem_map.mp ht
      exact hle s hs
  simp [outlives, hmax]

theorem place_lt_length {address : String} {steps : List Step} {p : Nat × Sighting}
    (hp : p ∈ history address steps) : p.1 < steps.length := by
  induction steps using List.reverseRecOn with
  | nil => simp at hp
  | append_singleton steps s ih =>
    rw [history_concat] at hp
    rw [List.length_append, List.length_singleton]
    have hold : p ∈ history address steps → p.1 < steps.length + 1 := fun h =>
      Nat.lt_succ_of_lt (ih h)
    cases s with
    | filter query => exact hold hp
    | record now o =>
      simp only [historyAfter] at hp
      split at hp
      · rcases List.mem_append.mp hp with h | h
        · exact hold h
        · rw [List.mem_singleton.mp h]
          exact Nat.lt_succ_self _
      · exact hold hp
    | expire now timeout =>
      simp only [historyAfter] at hp
      split at hp
      · exact hold hp
      · cases hp

theorem firstPlace_lt_length {address : String} {steps : List Step}
    (h : sightings address steps ≠ []) : firstPlace address steps < steps.length := by
  unfold sightings at h
  unfold firstPlace
  cases hh : history address steps with
  | nil => exact absurd (by rw [hh]; rfl) h
  | cons p rest =>
    have hp : p ∈ history address steps := by
      rw [hh]
      exact List.mem_cons_self
    exact place_lt_length hp

/-- A history that goes on keeps its beginning. -/
theorem firstPlace_concat {address : String} {steps : List Step} {s : Step}
    (h : sightings address steps ≠ []) (h' : sightings address (steps ++ [s]) ≠ []) :
    firstPlace address (steps ++ [s]) = firstPlace address steps := by
  unfold sightings at h h'
  unfold firstPlace
  rw [history_concat] at h' ⊢
  cases s with
  | filter query => rfl
  | record now o =>
    simp only [historyAfter]
    split
    · rw [List.head?_append_of_ne_nil]
      exact fun hnil => h (by rw [hnil]; rfl)
    · rfl
  | expire now timeout =>
    simp only [historyAfter] at h' ⊢
    split
    · rfl
    · next hstale =>
      rw [if_neg hstale] at h'
      exact absurd rfl h'

theorem firstPlace_concat_of_new {address : String} {steps : List Step} {now : Instant}
    {o : Observation} (h : sightings address steps = [])
    (ho : DeviceAddress.normal o.address = address) :
    firstPlace address (steps ++ [.record now o]) = steps.length := by
  have hnil : history address steps = [] := List.map_eq_nil_iff.mp h
  unfold firstPlace
  rw [history_concat, hnil]
  simp [historyAfter, ho]

/-! ### Sums of histories -/

/-- A beacon that sums up sightings. The last one gives the signal strength, the latest time of
all is the time of the last sighting, and the last frame and the last faults that any of them
carries are kept. -/
structure Summarises (b : Beacon) (l : List Sighting) : Prop where
  rssi : l.getLast?.map (·.observation.rssi) = some b.rssi
  lastSeen_mem : ∃ s ∈ l, s.time = b.lastSeen
  le_lastSeen : ∀ s ∈ l, s.time ≤ b.lastSeen
  hasUidFrame : b.hasUidFrame = true ↔ ∃ s ∈ l, s.observation.uidFrame.isSome = true
  uidFrame : b.uidFrame = (l.filterMap (·.observation.uidFrame)).getLast?.getD {}
  faults : b.faults = (l.filterMap (·.observation.faults)).getLast?.getD {}

theorem getD_getLast?_filterMap_concat {α β : Type} (f : α → Option β) (l : List α) (a : α)
    (none' : β) : ((l ++ [a]).filterMap f).getLast?.getD none' =
      (f a).getD ((l.filterMap f).getLast?.getD none') := by
  rw [List.filterMap_append]
  cases h : f a <;> simp [h]

/-- An update sums up one more sighting. -/
theorem Summarises.update {b : Beacon} {l : List Sighting} (h : Summarises b l) (s : Sighting) :
    Summarises (update s.observation s.time b) (l ++ [s]) where
  rssi := by
    rw [List.getLast?_concat]
    rfl
  lastSeen_mem := by
    show ∃ t ∈ l ++ [s], t.time = b.lastSeen.max s.time
    rw [Instant.max_eq]
    rcases le_total b.lastSeen s.time with hle | hle
    · rw [max_eq_right hle]
      exact ⟨s, by simp, rfl⟩
    · rw [max_eq_left hle]
      obtain ⟨t, ht, htime⟩ := h.lastSeen_mem
      exact ⟨t, List.mem_append_left _ ht, htime⟩
  le_lastSeen := by
    intro t ht
    show t.time ≤ b.lastSeen.max s.time
    rw [Instant.max_eq]
    rcases List.mem_append.mp ht with ht | ht
    · exact (h.le_lastSeen t ht).trans (le_max_left _ _)
    · rw [List.mem_singleton.mp ht]
      exact le_max_right _ _
  hasUidFrame := by
    show (b.hasUidFrame || s.observation.uidFrame.isSome) = true ↔ _
    rw [Bool.or_eq_true, h.hasUidFrame]
    simp [or_and_right, exists_or]
  uidFrame := by
    rw [getD_getLast?_filterMap_concat, ← h.uidFrame]
    rfl
  faults := by
    rw [getD_getLast?_filterMap_concat, ← h.faults]
    rfl

/-- A beacon that has just been added and updated sums up its first sighting. -/
theorem summarises_first (address : String) (s : Sighting) :
    Summarises (update s.observation s.time (Beacon.seenAt address s.observation.rssi s.time))
      [s] where
  rssi := rfl
  lastSeen_mem := ⟨s, by simp, by simp [Roster.update, Beacon.seenAt]⟩
  le_lastSeen t ht := by
    rw [List.mem_singleton.mp ht]
    simp [Roster.update, Beacon.seenAt]
  hasUidFrame := by simp [Roster.update, Beacon.seenAt]
  uidFrame := by cases h : s.observation.uidFrame <;> simp [Roster.update, Beacon.seenAt, h]
  faults := by cases h : s.observation.faults <;> simp [Roster.update, Beacon.seenAt, h]

theorem Summarises.ne_nil {b : Beacon} {l : List Sighting} (h : Summarises b l) : l ≠ [] := by
  rintro rfl
  obtain ⟨s, hs, -⟩ := h.lastSeen_mem
  cases hs

/-- The sightings decide everything about a beacon but its address. -/
theorem Summarises.unique {b c : Beacon} {l : List Sighting} (hb : Summarises b l)
    (hc : Summarises c l) (haddress : b.address = c.address) : b = c := by
  have hrssi : b.rssi = c.rssi := Option.some.inj (hb.rssi.symm.trans hc.rssi)
  have hlast : b.lastSeen = c.lastSeen := by
    obtain ⟨s, hs, hsb⟩ := hb.lastSeen_mem
    obtain ⟨t, ht, htc⟩ := hc.lastSeen_mem
    exact le_antisymm (hsb ▸ hc.le_lastSeen s hs) (htc ▸ hb.le_lastSeen t ht)
  have hhas : b.hasUidFrame = c.hasUidFrame :=
    Bool.eq_iff_iff.mpr (hb.hasUidFrame.trans hc.hasUidFrame.symm)
  have huid : b.uidFrame = c.uidFrame := hb.uidFrame.trans hc.uidFrame.symm
  have hfaults : b.faults = c.faults := hb.faults.trans hc.faults.symm
  cases b
  cases c
  simp_all

/-- A beacon is kept by a removal when its history outlives it. -/
theorem Summarises.isFresh_iff {b : Beacon} {l : List Sighting} (h : Summarises b l)
    (now : Instant) (timeout : Span) :
    isFresh now timeout b = true ↔ outlives now timeout l = true :=
  (outlives_iff h.lastSeen_mem h.le_lastSeen).symm

/-- The signal strength of a beacon is one of those received. -/
theorem Summarises.exists_rssi {b : Beacon} {l : List Sighting} (h : Summarises b l) :
    ∃ s ∈ l, s.observation.rssi = b.rssi := by
  obtain ⟨s, hlast, hrssi⟩ := Option.map_eq_some_iff.mp h.rssi
  exact ⟨s, List.mem_of_getLast? hlast, hrssi⟩

/-- The frame of a beacon is one of those received, if any was. -/
theorem Summarises.uidFrame_cases {b : Beacon} {l : List Sighting} (h : Summarises b l) :
    b.hasUidFrame = false ∧ b.uidFrame = {} ∨
      b.hasUidFrame = true ∧ ∃ s ∈ l, s.observation.uidFrame = some b.uidFrame := by
  have huid := h.uidFrame
  cases hlast : (l.filterMap (·.observation.uidFrame)).getLast? with
  | none =>
    left
    have hnone : ∀ s ∈ l, s.observation.uidFrame = none := by
      rw [List.getLast?_eq_none_iff, List.filterMap_eq_nil_iff] at hlast
      exact hlast
    rw [hlast] at huid
    refine ⟨?_, huid⟩
    rw [← Bool.not_eq_true, h.hasUidFrame]
    rintro ⟨s, hs, hsome⟩
    rw [hnone s hs] at hsome
    cases hsome
  | some frame =>
    right
    rw [hlast] at huid
    obtain ⟨s, hs, hframe⟩ := List.mem_filterMap.mp (List.mem_of_getLast? hlast)
    refine ⟨h.hasUidFrame.mpr ⟨s, hs, ?_⟩, s, hs, ?_⟩
    · rw [hframe]
      rfl
    · rw [hframe, huid]
      rfl

/-! ### Tracked beacons and histories -/

/-- Where addresses are distinct, updating the first beacon with an address updates all. -/
theorem updateFirst_eq_map {address : String} (f : Beacon → Beacon) {beacons : List Beacon}
    (h : (beacons.map (·.address)).Nodup) :
    updateFirst address f beacons =
      beacons.map fun b => if b.address = address then f b else b := by
  induction beacons with
  | nil => rfl
  | cons b beacons ih =>
    rw [List.map_cons, List.nodup_cons] at h
    rw [updateFirst, List.map_cons]
    split
    · next hb =>
      have hrest : ∀ c ∈ beacons, (if c.address = address then f c else c) = c := by
        intro c hc
        apply if_neg
        intro heq
        apply h.1
        rw [hb, ← heq]
        exact List.mem_map_of_mem hc
      rw [List.map_congr_left hrest, List.map_id']
    · rw [ih h.2]

/-- The beacons that a run from an empty roster tracks: those of the addresses with a history,
in the order in which the histories begin, each summing up its own. -/
structure Tracks (steps : List Step) (beacons : List Beacon) : Prop where
  mem_iff : ∀ address, address ∈ beacons.map (·.address) ↔ sightings address steps ≠ []
  ordered : (beacons.map (·.address)).Pairwise fun a b => firstPlace a steps < firstPlace b steps
  summarises : ∀ b ∈ beacons, Summarises b (sightings b.address steps)

theorem tracks_nil : Tracks [] [] where
  mem_iff := by simp
  ordered := List.Pairwise.nil
  summarises := by simp

namespace Tracks

variable {steps : List Step} {beacons : List Beacon}

theorem nodup (h : Tracks steps beacons) : (beacons.map (·.address)).Nodup := by
  refine h.ordered.imp ?_
  rintro a b hlt rfl
  exact lt_irrefl _ hlt

theorem sightings_ne_nil (h : Tracks steps beacons) {b : Beacon} (hb : b ∈ beacons) :
    sightings b.address steps ≠ [] :=
  (h.summarises b hb).ne_nil

/-- Addresses whose histories go on stay in the order in which the histories began. -/
theorem ordered_concat (h : Tracks steps beacons) {s : Step} {addresses : List String}
    (hsub : addresses.Sublist (beacons.map (·.address)))
    (hon : ∀ a ∈ addresses, sightings a (steps ++ [s]) ≠ []) :
    addresses.Pairwise fun a b =>
      firstPlace a (steps ++ [s]) < firstPlace b (steps ++ [s]) := by
  refine (h.ordered.sublist hsub).imp_of_mem ?_
  intro a b ha hb hlt
  have hplace : ∀ c ∈ addresses, firstPlace c (steps ++ [s]) = firstPlace c steps := fun c hc =>
    firstPlace_concat ((h.mem_iff c).mp (hsub.mem hc)) (hon c hc)
  rw [hplace a ha, hplace b hb]
  exact hlt

theorem step_filter (h : Tracks steps beacons) (query : Option String) :
    Tracks (steps ++ [.filter query]) beacons := by
  refine ⟨fun address => ?_, ?_, fun b hb => ?_⟩
  · rw [sightings_filter]
    exact h.mem_iff address
  · refine h.ordered_concat (List.Sublist.refl _) fun a ha => ?_
    rw [sightings_filter]
    exact (h.mem_iff a).mp ha
  · rw [sightings_filter]
    exact h.summarises b hb

theorem step_record_tracked (h : Tracks steps beacons) (now : Instant) {o : Observation}
    (ho : DeviceAddress.normal o.address ∈ beacons.map (·.address)) :
    Tracks (steps ++ [.record now o]) (recordedIn now o beacons) := by
  -- addresses are distinct, so the first beacon with the address is all there are of it
  rw [recordedIn_of_tracked now ho, updateFirst_eq_map _ h.nodup]
  set f : Beacon → Beacon := fun b =>
    if b.address = DeviceAddress.normal o.address then update o (o.sightedAt now) b else b
  have haddress : ∀ b, (f b).address = b.address := by
    intro b
    show (if _ then _ else _ : Beacon).address = _
    split <;> rfl
  have haddresses : (beacons.map f).map (·.address) = beacons.map (·.address) := by
    rw [List.map_map]
    exact List.map_congr_left fun b _ => haddress b
  refine ⟨fun address => ?_, ?_, fun c hc => ?_⟩
  · rw [haddresses]
    by_cases heq : address = DeviceAddress.normal o.address
    · rw [heq, sightings_record_self]
      simp [ho]
    · rw [sightings_record_of_ne heq]
      exact h.mem_iff address
  · rw [haddresses]
    refine h.ordered_concat (List.Sublist.refl _) fun a ha => ?_
    exact sightings_record_ne_nil ((h.mem_iff a).mp ha) now o
  · obtain ⟨b, hb, rfl⟩ := List.mem_map.mp hc
    rw [haddress]
    by_cases heq : b.address = DeviceAddress.normal o.address
    · have hsum := h.summarises b hb
      rw [heq] at hsum
      rw [heq, sightings_record_self, show f b = update o (o.sightedAt now) b from if_pos heq]
      exact hsum.update ⟨now, o⟩
    · rw [sightings_record_of_ne heq, show f b = b from if_neg heq]
      exact h.summarises b hb

theorem step_record_untracked (h : Tracks steps beacons) (now : Instant) {o : Observation}
    (ho : DeviceAddress.normal o.address ∉ beacons.map (·.address)) :
    Tracks (steps ++ [.record now o]) (recordedIn now o beacons) := by
  rw [recordedIn_of_untracked now ho]
  have hnew : sightings (DeviceAddress.normal o.address) steps = [] :=
    not_not.mp (mt (h.mem_iff _).mpr ho)
  have hself : sightings (DeviceAddress.normal o.address) (steps ++ [.record now o]) =
      [⟨now, o⟩] := by
    rw [sightings_record_self, hnew]
    rfl
  have hother : ∀ a ∈ beacons.map (·.address), a ≠ DeviceAddress.normal o.address := by
    rintro a ha rfl
    exact ho ha
  have hon : ∀ a ∈ beacons.map (·.address), sightings a (steps ++ [.record now o]) ≠ [] :=
    fun a ha => sightings_record_ne_nil ((h.mem_iff a).mp ha) now o
  refine ⟨fun address => ?_, ?_, fun c hc => ?_⟩
  · rw [List.map_append, List.map_singleton, List.mem_append, List.mem_singleton]
    by_cases heq : address = DeviceAddress.normal o.address
    · rw [heq, hself]
      simp [Beacon.seenAt]
    · rw [sightings_record_of_ne heq, h.mem_iff]
      exact or_iff_left heq
  · rw [List.map_append, List.map_singleton, List.pairwise_append]
    refine ⟨h.ordered_concat (List.Sublist.refl _) hon, List.pairwise_singleton _ _, ?_⟩
    intro a ha c hc
    rw [List.mem_singleton.mp hc]
    -- the new history begins with this step, all others have begun before
    show _ < firstPlace (DeviceAddress.normal o.address) _
    rw [firstPlace_concat_of_new hnew rfl, firstPlace_concat ((h.mem_iff a).mp ha) (hon a ha)]
    exact firstPlace_lt_length ((h.mem_iff a).mp ha)
  · rcases List.mem_append.mp hc with hb | hb
    · rw [sightings_record_of_ne (hother _ (List.mem_map_of_mem hb))]
      exact h.summarises c hb
    · rw [List.mem_singleton.mp hb]
      show Summarises _ (sightings (DeviceAddress.normal o.address) _)
      rw [hself]
      exact summarises_first _ ⟨now, o⟩

theorem step_expire (h : Tracks steps beacons) (now : Instant) (timeout : Span) :
    Tracks (steps ++ [.expire now timeout]) (beacons.filter (isFresh now timeout)) := by
  -- the beacon is judged by its last sighting, the history by the latest of its times
  have hkept : ∀ b ∈ beacons.filter (isFresh now timeout),
      sightings b.address (steps ++ [.expire now timeout]) = sightings b.address steps := by
    intro b hb
    obtain ⟨hmem, hfresh⟩ := List.mem_filter.mp hb
    rw [sightings_removal]
    exact if_pos (((h.summarises b hmem).isFresh_iff now timeout).mp hfresh)
  have hon : ∀ a ∈ (beacons.filter (isFresh now timeout)).map (·.address),
      sightings a (steps ++ [.expire now timeout]) ≠ [] := by
    intro a ha
    obtain ⟨b, hb, rfl⟩ := List.mem_map.mp ha
    rw [hkept b hb]
    exact h.sightings_ne_nil (List.mem_filter.mp hb).1
  refine ⟨fun address => ⟨hon address, fun hne => ?_⟩, ?_, fun b hb => ?_⟩
  · rw [sightings_removal] at hne
    split at hne
    · next hout =>
      obtain ⟨b, hb, rfl⟩ := List.mem_map.mp ((h.mem_iff address).mpr hne)
      have hfresh := ((h.summarises b hb).isFresh_iff now timeout).mpr hout
      exact List.mem_map_of_mem (List.mem_filter.mpr ⟨hb, hfresh⟩)
    · exact absurd rfl hne
  · exact h.ordered_concat (List.filter_sublist.map _) hon
  · rw [hkept b hb]
    exact h.summarises b (List.mem_filter.mp hb).1

end Tracks

/-- What a run tracks, it tracks after one more step. -/
theorem tracks_step {steps : List Step} {r : Roster} (h : Tracks steps r.beacons) (s : Step) :
    Tracks (steps ++ [s]) (r.step s).roster.beacons := by
  rw [step_beacons]
  cases s with
  | filter query => exact h.step_filter query
  | record now o =>
    by_cases ho : DeviceAddress.normal o.address ∈ r.beacons.map (·.address)
    · exact h.step_record_tracked now ho
    · exact h.step_record_untracked now ho
  | expire now timeout => exact h.step_expire now timeout

theorem run_tracks (labels : Labels) (steps : List Step) :
    Tracks steps ((ofBeacons [] labels).run steps).roster.beacons :=
  run_induction (P := fun steps r => Tracks steps r.beacons) (ofBeacons [] labels) tracks_nil
    (fun _ s ih => tracks_step ih s) steps

/-! ### What concerns an address -/

/-- The steps that can matter to an address: its own observations, and removals. -/
def concerns (address : String) : Step → Bool
  | .filter _ => false
  | .record _ o => DeviceAddress.normal o.address == address
  | .expire .. => true

/-- Steps that do not concern an address leave its sightings alone, wherever they stand. -/
theorem sightings_concerning (address : String) (steps : List Step) :
    sightings address (steps.filter (concerns address)) = sightings address steps := by
  induction steps using List.reverseRecOn with
  | nil => rfl
  | append_singleton steps s ih =>
    rw [List.filter_append, List.filter_singleton]
    cases s with
    | filter query =>
      rw [sightings_filter, ← ih]
      simp [concerns]
    | record now o =>
      by_cases heq : address = DeviceAddress.normal o.address
      · rw [show concerns address (.record now o) = true from beq_iff_eq.mpr heq.symm, heq]
        rw [heq] at ih
        simp only [cond_true, sightings_record_self, ih]
      · have hother : concerns address (.record now o) = false :=
          beq_eq_false_iff_ne.mpr (Ne.symm heq)
        rw [hother, sightings_record_of_ne heq, ← ih]
        simp
    | expire now timeout =>
      rw [show concerns address (.expire now timeout) = true from rfl, cond_true,
        sightings_removal, sightings_removal, ih]

theorem address_of_find?_eq_some {address : String} {beacons : List Beacon} {b : Beacon}
    (h : beacons.find? (·.address == address) = some b) : b.address = address := by
  simpa using List.find?_some h

theorem Tracks.find?_eq_some_iff {steps : List Step} {beacons : List Beacon}
    (h : Tracks steps beacons) {address : String} {b : Beacon} :
    beacons.find? (·.address == address) = some b ↔ b ∈ beacons ∧ b.address = address := by
  constructor
  · intro hfind
    exact ⟨List.mem_of_find?_eq_some hfind, address_of_find?_eq_some hfind⟩
  · rintro ⟨hb, rfl⟩
    obtain ⟨c, hc⟩ : ∃ c, beacons.find? (·.address == b.address) = some c := by
      rw [← Option.isSome_iff_exists, List.find?_isSome]
      exact ⟨b, hb, beq_self_eq_true _⟩
    have hmem := List.mem_of_find?_eq_some hc
    have haddress := address_of_find?_eq_some hc
    have hsum := h.summarises c hmem
    rw [haddress] at hsum
    rw [hc, hsum.unique (h.summarises b hb) haddress]

/-- Two runs that give an address the same sightings track the same beacon for it. -/
theorem Tracks.find?_eq {steps steps' : List Step} {beacons beacons' : List Beacon}
    (h : Tracks steps beacons) (h' : Tracks steps' beacons') {address : String}
    (hs : sightings address steps = sightings address steps') :
    beacons.find? (·.address == address) = beacons'.find? (·.address == address) := by
  by_cases hnil : sightings address steps = []
  · have hnone : ∀ {l : List Beacon}, address ∉ l.map (·.address) →
        l.find? (·.address == address) = none := by
      intro l hl
      rw [List.find?_eq_none]
      intro b hb heq
      exact hl (List.mem_map.mpr ⟨b, hb, beq_iff_eq.mp heq⟩)
    rw [hnone (mt (h.mem_iff address).mp (not_not.mpr hnil)),
      hnone (mt (h'.mem_iff address).mp (not_not.mpr (hs ▸ hnil)))]
  · obtain ⟨b, hb, hba⟩ := List.mem_map.mp ((h.mem_iff address).mpr hnil)
    obtain ⟨c, hc, hca⟩ := List.mem_map.mp ((h'.mem_iff address).mpr (hs ▸ hnil))
    have hbsum := h.summarises b hb
    have hcsum := h'.summarises c hc
    rw [hba] at hbsum
    rw [hca, ← hs] at hcsum
    rw [h.find?_eq_some_iff.mpr ⟨hb, hba⟩, h'.find?_eq_some_iff.mpr ⟨hc, hca⟩,
      hbsum.unique hcsum (hba.trans hca.symm)]

/-- A removal clears the history of an address exactly when it removes its beacon. -/
theorem sightings_expire {steps : List Step} {r : Roster} (h : Tracks steps r.beacons)
    (address : String) (now : Instant) (timeout : Span) :
    sightings address (steps ++ [.expire now timeout]) =
      if address ∈ r.beacons.map (·.address) ∧
          address ∉ (r.expire now timeout).roster.beacons.map (·.address) then []
      else sightings address steps := by
  have hafter : Tracks (steps ++ [.expire now timeout]) (r.expire now timeout).roster.beacons :=
    tracks_step h (.expire now timeout)
  split
  · next hgone => exact not_not.mp (mt (hafter.mem_iff address).mpr hgone.2)
  · next hstay =>
    rw [h.mem_iff, hafter.mem_iff, not_and, not_not] at hstay
    rw [sightings_removal] at hstay ⊢
    split
    · rfl
    · next hstale =>
      rw [if_neg hstale] at hstay
      by_contra hne
      exact hstay (Ne.symm hne) rfl

/-- **A tracked beacon is the sum of its own observations.** A run from an empty roster tracks
the addresses that have been seen since they were last removed, once each and in the order in
which their histories begin, and each beacon sums up the sightings of its address. An
observation is answered with `created` exactly when its address was not tracked. A removal
clears the histories of what it removes and no others. Two runs that agree on what concerns
an address, whatever else they hold, track the same beacon for it. -/
theorem run_summarises_sightings (labels : Labels) (steps : List Step) :
    let r := ((ofBeacons [] labels).run steps).roster
    (∀ address, address ∈ r.beacons.map (·.address) ↔ sightings address steps ≠ []) ∧
      (r.beacons.map (·.address)).Nodup ∧
      (r.beacons.map (·.address)).Pairwise
        (fun a b => firstPlace a steps < firstPlace b steps) ∧
      (∀ b ∈ r.beacons, Summarises b (sightings b.address steps)) ∧
      (∀ now o, (r.record now o).answer.created = true ↔
        DeviceAddress.normal o.address ∉ r.beacons.map (·.address)) ∧
      (∀ address now timeout, sightings address (steps ++ [.expire now timeout]) =
        if address ∈ r.beacons.map (·.address) ∧
            address ∉ (r.expire now timeout).roster.beacons.map (·.address) then []
        else sightings address steps) ∧
      (∀ address labels' steps',
        steps'.filter (concerns address) = steps.filter (concerns address) →
        ((ofBeacons [] labels').run steps').roster.beacons.find? (·.address == address) =
          r.beacons.find? (·.address == address)) := by
  intro r
  have h : Tracks steps r.beacons := run_tracks labels steps
  refine ⟨h.mem_iff, h.nodup, h.ordered, h.summarises, ?_, sightings_expire h, ?_⟩
  · intro now o
    rw [← any_address_iff, record_eq]
    simp
  · intro address labels' steps' hsame
    apply (run_tracks labels' steps').find?_eq h
    rw [← sightings_concerning, hsame, sightings_concerning]

/-- An address is tracked in upper case, a time that is still to come counts as now, and an
older time that comes in later does not take its place. -/
example :
    let now : Instant := ⟨1700000000, 0, by decide, by decide, by decide, by decide⟩
    let earlier : Instant := ⟨1699999940, 0, by decide, by decide, by decide, by decide⟩
    let later : Instant := ⟨1700000060, 0, by decide, by decide, by decide, by decide⟩
    let early : Observation :=
      { address := "aa:bb:cc:dd:ee:ff", rssi := -60, seenAt := some later }
    let late : Observation :=
      { address := "AA:bb:CC:dd:EE:ff", rssi := -70, seenAt := some earlier }
    let r := ((ofBeacons [] {}).run [.record now early, .record now late]).roster
    r.beacons.map (fun b => (b.address, b.rssi, b.lastSeen)) =
      [("AA:BB:CC:DD:EE:FF", -70, now)] := by
  decide

end NearbyBeacons.Roster
