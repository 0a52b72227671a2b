import NearbyBeacons.Proofs.Roster.History
/-!
# Clock readings and removals

A sighting counts as made at the clock reading at which it was taken in, or before. Hence no
beacon of a run has been seen after the latest reading that the run used
(`Tracks.lastSeen_le`).

Outside leap seconds a removal is exact about sightings. What it keeps has been taken in
within the timeout (`Tracks.exists_recent`), and a sighting that was taken in within the
timeout and not antedated is still in its history, whatever was seen or removed in between
(`mem_sightings_of_recent`).
-/

namespace NearbyBeacons.Roster

/-! ### Readings and sightings of a run -/

/-- The clock reading that a step uses. -/
def Step.reading? : Step → Option Instant
  | filter _ => none
  | record now _ => some now
  | expire now _ => some now

/-- The sighting that a step takes in. -/
def Step.sighting? : Step → Option Sighting
  | filter _ => none
  | record now o => some ⟨now, o⟩
  | expire .. => none

/-- The clock readings of a run, in order. -/
def readings (steps : List Step) : List Instant := steps.filterMap Step.reading?

/-- The sightings of a run, in order. -/
def taken (steps : List Step) : List Sighting := steps.filterMap Step.sighting?

theorem readings_append (steps more : List Step) :
    readings (steps ++ more) = readings steps ++ readings more :=
  List.filterMap_append

theorem taken_append (steps more : List Step) :
    taken (steps ++ more) = taken steps ++ taken more :=
  List.filterMap_append

theorem mem_taken_iff {s : Sighting} {steps : List Step} :
    s ∈ taken steps ↔ .record s.now s.observation ∈ steps := by
  unfold taken
  rw [List.mem_filterMap]
  constructor
  · rintro ⟨step, hstep, hs⟩
    cases step with
    | filter query => cases hs
    | record now o =>
      cases hs
      exact hstep
    | expire now timeout => cases hs
  · intro h
    exact ⟨_, h, rfl⟩

theorem now_mem_readings {s : Sighting} {steps : List Step} (h : s ∈ taken steps) :
    s.now ∈ readings steps :=
  List.mem_filterMap.mpr ⟨_, mem_taken_iff.mp h, rfl⟩

/-- A history holds observations of its own address only. -/
theorem mem_taken_of_mem_sightings {address : String} {s : Sighting} {steps : List Step}
    (h : s ∈ sightings address steps) :
    s ∈ taken steps ∧ DeviceAddress.normal s.observation.address = address := by
  induction steps using List.reverseRecOn with
  | nil => cases h
  | append_singleton steps step ih =>
    have hold : s ∈ sightings address steps →
        s ∈ taken (steps ++ [step]) ∧ DeviceAddress.normal s.observation.address = address := by
      intro hs
      refine ⟨?_, (ih hs).2⟩
      rw [taken_append]
      exact List.mem_append_left _ (ih hs).1
    cases step with
    | filter query =>
      rw [sightings_filter] at h
      exact hold h
    | record now o =>
      rw [sightings_record] at h
      split at h
      · next ho =>
        rcases List.mem_append.mp h with h | h
        · exact hold h
        · rw [List.mem_singleton.mp h]
          exact ⟨mem_taken_iff.mpr (by simp), ho⟩
      · exact hold h
    | expire now timeout =>
      rw [sightings_removal] at h
      split at h
      · exact hold h
      · cases h

/-- No sighting counts as made after it was taken in. -/
theorem Sighting.time_le_now (s : Sighting) : s.time ≤ s.now := by
  unfold Sighting.time Observation.sightedAt
  split
  · exact le_refl _
  · rw [Instant.min_eq]
    exact min_le_right _ _

/-- A sighting that is not antedated counts as made when it was taken in. -/
theorem Sighting.time_eq_now {s : Sighting}
    (h : ∀ t ∈ s.observation.seenAt, s.now ≤ t) : s.time = s.now := by
  unfold Sighting.time Observation.sightedAt
  split
  · rfl
  · next t ht => rw [Instant.min_eq, min_eq_right (h t ht)]

/-- No beacon of a run has been seen after the latest reading of the run. -/
theorem Tracks.lastSeen_le {steps : List Step} {beacons : List Beacon} (h : Tracks steps beacons)
    {b : Beacon} (hb : b ∈ beacons) :
    ∃ latest, (readings steps).max? = some latest ∧ b.lastSeen ≤ latest := by
  obtain ⟨s, hs, htime⟩ := (h.summarises b hb).lastSeen_mem
  have hnow := now_mem_readings (mem_taken_of_mem_sightings hs).1
  cases hmax : (readings steps).max? with
  | none =>
    rw [List.max?_eq_none_iff.mp hmax] at hnow
    cases hnow
  | some latest =>
    refine ⟨latest, rfl, ?_⟩
    rw [← htime]
    exact s.time_le_now.trans ((List.max?_eq_some_iff.mp hmax).2 _ hnow)

/-! ### Outside leap seconds -/

/-- A run whose clock readings and given times lie outside leap seconds. -/
structure AvoidsLeapSeconds (steps : List Step) : Prop where
  reading : ∀ t ∈ readings steps, t.inLeapSecond = false
  given : ∀ s ∈ taken steps, ∀ t ∈ s.observation.seenAt, t.inLeapSecond = false

/-- A sighting counts as made at its given time or at a clock reading. -/
theorem AvoidsLeapSeconds.time {steps : List Step} (h : AvoidsLeapSeconds steps) {s : Sighting}
    (hs : s ∈ taken steps) : s.time.inLeapSecond = false := by
  unfold Sighting.time Observation.sightedAt
  split
  · exact h.reading _ (now_mem_readings hs)
  · next t ht =>
    rw [Instant.min_eq]
    rcases min_choice t s.now with hmin | hmin
    · rw [hmin]
      exact h.given s hs t ht
    · rw [hmin]
      exact h.reading _ (now_mem_readings hs)

theorem AvoidsLeapSeconds.of_append {steps more : List Step}
    (h : AvoidsLeapSeconds (steps ++ more)) : AvoidsLeapSeconds steps where
  reading t ht := by
    apply h.reading
    rw [readings_append]
    exact List.mem_append_left _ ht
  given s hs := by
    apply h.given
    rw [taken_append]
    exact List.mem_append_left _ hs

/-- What a removal keeps has been taken in within the timeout, whatever time it claims. -/
theorem Tracks.exists_recent {steps : List Step} {beacons : List Beacon} (h : Tracks steps beacons)
    {now : Instant} {timeout : Span} (hleap : AvoidsLeapSeconds (steps ++ [.expire now timeout]))
    {b : Beacon} (hb : b ∈ beacons.filter (isFresh now timeout)) :
    ∃ s ∈ taken steps, DeviceAddress.normal s.observation.address = b.address ∧
      (now.since s.now).le timeout = true := by
  obtain ⟨hmem, hfresh⟩ := List.mem_filter.mp hb
  obtain ⟨s, hs, htime⟩ := (h.summarises b hmem).lastSeen_mem
  obtain ⟨htaken, haddress⟩ := mem_taken_of_mem_sightings hs
  have hold := hleap.of_append
  have hnow : now.inLeapSecond = false := hleap.reading now (by simp [readings, Step.reading?])
  refine ⟨s, htaken, haddress, ?_⟩
  -- a sighting may claim to be older than its reading, never younger
  rw [isFresh, Beacon.age, ← htime, Span.le_eq_true_iff] at hfresh
  rw [Span.le_eq_true_iff]
  exact (Instant.since_le_since hnow hnow (hold.reading _ (now_mem_readings htaken))
    (hold.time htaken) (le_refl now) s.time_le_now).trans hfresh

/-- Sightings outlive a removal when one of them, and each that is no earlier, is recent. -/
theorem outlives_of_mem {now : Instant} {timeout : Span} {l : List Sighting} {s : Sighting}
    (hs : s ∈ l)
    (h : ∀ t ∈ l, s.time ≤ t.time → (now.since t.time).le timeout = true) :
    outlives now timeout l = true := by
  cases hmax : (l.map (·.time)).max? with
  | none =>
    rw [List.map_eq_nil_iff.mp (List.max?_eq_none_iff.mp hmax)] at hs
    cases hs
  | some latest =>
    obtain ⟨hmem, hle⟩ := List.max?_eq_some_iff.mp hmax
    obtain ⟨t, ht, rfl⟩ := List.mem_map.mp hmem
    rw [outlives, hmax]
    exact h t ht (hle _ (List.mem_map_of_mem hs))

/-- A sighting that was taken in within the timeout, and not antedated, is still in its
history: no removal up to then has cleared it. -/
theorem mem_sightings_of_recent {steps : List Step} {last : Instant} {timeout : Span}
    (hleap : AvoidsLeapSeconds steps) (hlast : last.inLeapSecond = false)
    (hle : ∀ t ∈ readings steps, t ≤ last)
    (htimeout : ∀ now timeout', .expire now timeout' ∈ steps → timeout' = timeout)
    {s : Sighting} (hs : s ∈ taken steps) (htime : s.time = s.now)
    (hrecent : (last.since s.now).le timeout = true) :
    s ∈ sightings (DeviceAddress.normal s.observation.address) steps := by
  induction steps using List.reverseRecOn with
  | nil => cases hs
  | append_singleton steps step ih =>
    have hold : s ∈ taken steps →
        s ∈ sightings (DeviceAddress.normal s.observation.address) steps := by
      refine ih hleap.of_append (fun t ht => hle t ?_) fun now timeout' hmem => ?_
      · rw [readings_append]
        exact List.mem_append_left _ ht
      · exact htimeout now timeout' (List.mem_append_left _ hmem)
    rw [mem_taken_iff, List.mem_append, ← mem_taken_iff, List.mem_singleton] at hs
    cases step with
    | filter query =>
      rw [sightings_filter]
      rcases hs with hs | hs
      · exact hold hs
      · cases hs
    | record now o =>
      rcases hs with hs | hs
      · rw [sightings_record]
        split
        · exact List.mem_append_left _ (hold hs)
        · exact hold hs
      · cases hs
        rw [sightings_record_self]
        exact List.mem_append_right _ (List.mem_singleton_self _)
    | expire now timeout' =>
      rcases hs with hs | hs
      · have hmem := hold hs
        have htimeout' : timeout' = timeout := htimeout now timeout' (by simp)
        have hnow : now ∈ readings (steps ++ [.expire now timeout']) := by
          simp [readings, Step.reading?]
        rw [sightings_removal, if_pos]
        · exact hmem
        -- the latest sighting is at least as late as `s`, and `now` is no later than `last`
        · refine outlives_of_mem hmem fun t ht hst => ?_
          rw [htime] at hst
          rw [htimeout', Span.le_eq_true_iff]
          rw [Span.le_eq_true_iff] at hrecent
          have htaken := (mem_taken_of_mem_sightings ht).1
          exact (Instant.since_le_since (hleap.reading _ hnow) hlast
            (hleap.of_append.time htaken)
            (hleap.of_append.reading _ (now_mem_readings hs)) (hle _ hnow) hst).trans hrecent
      · cases hs

end NearbyBeacons.Roster
