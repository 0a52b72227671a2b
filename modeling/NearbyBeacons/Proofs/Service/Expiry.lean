import NearbyBeacons.Proofs.Service.Invariant
/-!
# Sweeps and what was seen lately

A sweep with the stale timeout `d` at the clock reading `T` leaves exactly the addresses that it
should, whatever times the observations give for themselves (`run_sweep_recent`). An address
stays only on account of an observation that was accepted within `d` before `T`, and it does stay
on account of each such observation that is not antedated.
-/

namespace NearbyBeacons.Service

theorem calls_concat_sweep (settings : Settings) (steps : List Step) (now : Instant) :
    calls settings (steps ++ [.sweep now]) =
      calls settings steps ++ [.expire now settings.tracking.staleTimeout] := by
  rw [calls_append]
  rfl

theorem run_concat_sweep_beacons (settings : Settings) (steps : List Step) (now : Instant) :
    ((start settings).run (steps ++ [.sweep now])).roster.beacons =
      ((start settings).run steps).roster.beacons.filter
        (Roster.isFresh now settings.tracking.staleTimeout) := by
  rw [run_eq, run_eq]
  show ((start settings).roster.run (calls settings _)).roster.beacons = _
  rw [calls_concat_sweep, Roster.run_concat_roster, Roster.step_beacons]
  rfl

/-- All sweeps use the timeout of the settings. -/
theorem timeout_of_mem_calls {settings : Settings} {steps : List Step} {now : Instant}
    {timeout : Span} (h : .expire now timeout ∈ calls settings steps) :
    timeout = settings.tracking.staleTimeout := by
  rcases call_cases h with ⟨query, hcall⟩ | ⟨now', o, hcall, -⟩ | ⟨now', hcall⟩
  · cases hcall
  · cases hcall
  · cases hcall
    rfl

/-- **A sweep keeps no dead beacon and loses no fresh one.** After a run whose clock never
goes back and that avoids leap seconds, right after a sweep: every tracked address has an
accepted observation that was taken in within the stale timeout, and every accepted
observation that was taken in within the stale timeout, and gives no time or none before it
was taken in, has its address tracked. -/
theorem run_sweep_recent (settings : Settings) (steps : List Step) (now : Instant)
    (hclock : (Roster.readings (calls settings (steps ++ [.sweep now]))).Pairwise (· ≤ ·))
    (hleap : Roster.AvoidsLeapSeconds (calls settings (steps ++ [.sweep now]))) :
    let timeout := settings.tracking.staleTimeout
    let s := (start settings).run (steps ++ [.sweep now])
    (∀ b ∈ s.roster.beacons, ∃ g ∈ Roster.taken (calls settings steps),
      DeviceAddress.normal g.observation.address = b.address ∧
        (now.since g.now).le timeout = true) ∧
      ∀ g ∈ Roster.taken (calls settings steps),
        (now.since g.now).le timeout = true → (∀ t ∈ g.observation.seenAt, g.now ≤ t) →
          DeviceAddress.normal g.observation.address ∈ s.roster.beacons.map (·.address) := by
  intro timeout s
  have htracks : Roster.Tracks (calls settings (steps ++ [.sweep now])) s.roster.beacons :=
    run_tracks settings (steps ++ [.sweep now])
  constructor
  · intro b hb
    rw [calls_concat_sweep] at hleap
    refine (run_tracks settings steps).exists_recent hleap ?_
    rw [← run_concat_sweep_beacons]
    exact hb
  -- an address is tracked while its history is not empty, and `g` stays in it
  · intro g hg hrecent hdated
    rw [htracks.mem_iff]
    apply List.ne_nil_of_mem (a := g)
    refine Roster.mem_sightings_of_recent hleap ?_ ?_ (fun _ _ => timeout_of_mem_calls) ?_
      (Roster.Sighting.time_eq_now hdated) hrecent
    · apply hleap.reading
      rw [calls_concat_sweep, Roster.readings_append]
      exact List.mem_append_right _ (List.mem_singleton_self _)
    · intro t ht
      rw [calls_concat_sweep, Roster.readings_append] at hclock ht
      rcases List.mem_append.mp ht with ht | ht
      · exact (List.pairwise_append.mp hclock).2.2 t ht now (List.mem_singleton_self _)
      · exact le_of_eq (List.mem_singleton.mp ht)
    · rw [calls_concat_sweep, Roster.taken_append]
      exact List.mem_append_left _ hg

/-- A request that posts an observation of an address in lower case, without a time. -/
def lowerCasePost : Http.Request :=
  { method := .post
    target := "/api/beacons/observations"
    headers := [("content-type", "application/json")]
    body := "\x7B\"device_address\":\"aa:bb:cc:dd:ee:ff\",\"rssi\":-60\x7D" }

/-- An observation that is as old as the timeout is recent enough. -/
theorem sweep_at_timeout :
    let post : Instant := ⟨0, 0, by decide, by decide, by decide, by decide⟩
    let last : Instant := ⟨10, 0, by decide, by decide, by decide, by decide⟩
    let steps : List Step := [.request post lowerCasePost]
    (Roster.readings (calls {} (steps ++ [.sweep last]))).Pairwise (· ≤ ·) ∧
      Roster.AvoidsLeapSeconds (calls {} (steps ++ [.sweep last])) ∧
      "AA:BB:CC:DD:EE:FF" ∈
        ((start {}).run (steps ++ [.sweep last])).roster.beacons.map (·.address) := by
  intro post last steps
  let o : Observation := { address := "aa:bb:cc:dd:ee:ff", rssi := -60 }
  have hsteps : calls {} steps = [.record post o] := by decide +kernel
  have hcalls : calls {} (steps ++ [.sweep last]) =
      [.record post o, .expire last ⟨10000000000⟩] := by decide +kernel
  have hclock : (Roster.readings (calls {} (steps ++ [.sweep last]))).Pairwise (· ≤ ·) := by
    rw [hcalls]
    decide
  have hleap : Roster.AvoidsLeapSeconds (calls {} (steps ++ [.sweep last])) := by
    rw [hcalls]
    exact ⟨by decide, by decide⟩
  have haddress : DeviceAddress.normal o.address = "AA:BB:CC:DD:EE:FF" := by decide +kernel
  refine ⟨hclock, hleap, ?_⟩
  rw [← haddress]
  have hmem : ⟨post, o⟩ ∈ Roster.taken (calls {} steps) := by
    rw [hsteps]
    exact List.mem_singleton_self _
  exact (run_sweep_recent {} steps last hclock hleap).2 ⟨post, o⟩ hmem (by decide) (by simp [o])

end NearbyBeacons.Service
