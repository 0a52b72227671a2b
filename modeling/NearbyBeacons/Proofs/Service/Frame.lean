import Mathlib.Data.List.Forall2
import NearbyBeacons.Proofs.Roster.History
import NearbyBeacons.Proofs.Service.Answer
/-!
# What requests and sweeps leave alone

A request that fails or only reads leaves the whole service as it was; a query that is put
touches the query and the view; an observation touches the beacon of its own address, or adds
one at the end (`recordedIn_keepsOthers`); a sweep takes beacons out and touches none of the
rest. The main statement is `answer_frame`.
-/

namespace NearbyBeacons

/-! ### Tracked beacons -/

namespace Roster

/-- All beacons of `before` are in their places in `after`, and none but those of `address` has
changed; behind them there is at most one more, which has that address. -/
def KeepsOthers (address : String) (before after : List Beacon) : Prop :=
  ∃ kept added, after = kept ++ added ∧
    List.Forall₂ (fun b c => c.address = b.address ∧ (b.address ≠ address → c = b)) before kept ∧
    added.length ≤ 1 ∧ ∀ b ∈ added, b.address = address

theorem forall₂_updateFirst {address : String} {f : Beacon → Beacon}
    (hf : ∀ b, (f b).address = b.address) (beacons : List Beacon) :
    List.Forall₂ (fun b c => c.address = b.address ∧ (b.address ≠ address → c = b)) beacons
      (updateFirst address f beacons) := by
  have hsame : ∀ b : Beacon, b.address = b.address ∧ (b.address ≠ address → b = b) := fun b =>
    ⟨rfl, fun _ => rfl⟩
  induction beacons with
  | nil => exact List.Forall₂.nil
  | cons b beacons ih =>
    rw [updateFirst]
    split
    · next hb =>
      exact List.Forall₂.cons ⟨hf b, fun hne => absurd hb hne⟩
        (List.forall₂_same.mpr fun c _ => hsame c)
    · exact List.Forall₂.cons (hsame b) ih

/-- An observation touches the beacon of its own address and no other. -/
theorem recordedIn_keepsOthers (now : Instant) (o : Observation) (beacons : List Beacon) :
    KeepsOthers (DeviceAddress.normal o.address) beacons (recordedIn now o beacons) := by
  by_cases h : DeviceAddress.normal o.address ∈ beacons.map (·.address)
  · rw [recordedIn_of_tracked now h]
    exact ⟨_, [], (List.append_nil _).symm,
      forall₂_updateFirst (update_address o (o.sightedAt now)) beacons, Nat.zero_le 1, by simp⟩
  · rw [recordedIn_of_untracked now h]
    refine ⟨beacons, _, rfl, ?_, le_refl 1, ?_⟩
    · exact List.forall₂_same.mpr fun b _ => ⟨rfl, fun _ => rfl⟩
    · intro b hb
      rw [List.mem_singleton.mp hb]
      rfl

end Roster

/-! ### Requests and sweeps -/

namespace Service

theorem putFilter_service (s : Service) (request : FilterRequest) :
    ∃ query view, (s.putFilter request).service =
      { s with roster := { s.roster with query, view } } := by
  let query := Roster.activeQuery request.query
  refine ⟨query, Roster.viewOf query s.roster.beacons, ?_⟩
  show Service.mk s.settings (s.roster.applyFilter request.query).roster = _
  rw [Roster.applyFilter, Roster.refilter_roster]

/-- **Requests touch only what they name.** In every state a request that is answered with a
status of 400 or above, or that neither puts a query nor posts an observation, changes nothing
at all. A query that is put and not refused changes the query and the view. An observation that
is posted and not refused leaves settings, query, labels and all beacons of other addresses as
they are and where they are, and adds at most one, at the end. A sweep leaves settings, query
and labels alone and changes no beacon that it leaves. -/
theorem answer_frame (s : Service) (now : Instant) (r : Http.Request) :
    let after := (s.answer now r).service
    let status := (s.answer now r).answer.status
    (400 ≤ status ∨ ¬r.PutsQuery ∧ ¬r.PostsObservation → after = s) ∧
      (r.PutsQuery → status < 400 →
        ∃ query view, after = { s with roster := { s.roster with query, view } }) ∧
      (r.PostsObservation → status < 400 →
        ∃ o, bodyOf Observation.record.decode r = .ok o ∧ after.settings = s.settings ∧
          after.roster.query = s.roster.query ∧ after.roster.labels = s.roster.labels ∧
          Roster.KeepsOthers (DeviceAddress.normal o.address) s.roster.beacons
            after.roster.beacons) ∧
      let swept := (s.sweep now).service
      swept.settings = s.settings ∧ swept.roster.query = s.roster.query ∧
        swept.roster.labels = s.roster.labels ∧
        swept.roster.beacons.Sublist s.roster.beacons := by
  intro after status
  refine ⟨?_, ?_, ?_, rfl, ?_, ?_, ?_⟩
  · intro h
    by_cases hput : r.PutsQuery
    · rcases s.answer_of_putsQuery now hput with ⟨fault, -, hanswer⟩ | ⟨request, -, hanswer⟩
      · simp only [after, hanswer]
      · simp only [status, hanswer, status_granted] at h
        exact absurd hput (h.resolve_left (by decide)).1
    · by_cases hpost : r.PostsObservation
      · rcases s.answer_of_postsObservation now hpost with
          ⟨response, events, hanswer, -⟩ | ⟨o, -, -, hanswer⟩
        · simp only [after, hanswer]
        · simp only [status, hanswer, status_granted] at h
          exact absurd hpost (h.resolve_left (by decide)).2
      · exact s.answer_of_neither now hput hpost
  · intro hput hstatus
    rcases s.answer_of_putsQuery now hput with ⟨fault, -, hanswer⟩ | ⟨request, -, hanswer⟩
    · simp only [status, hanswer] at hstatus
      exact absurd fault.le_status (Nat.not_le.mpr hstatus)
    · have hafter : after = (s.putFilter request).service := congrArg Turn.service hanswer
      rw [hafter]
      exact s.putFilter_service request
  · intro hpost hstatus
    rcases s.answer_of_postsObservation now hpost with
      ⟨response, events, hanswer, hfailed⟩ | ⟨o, hbody, -, hanswer⟩
    · simp only [status, hanswer] at hstatus
      exact absurd hfailed (Nat.not_le.mpr hstatus)
    · have hafter : after = { s with roster := (s.roster.record now o).roster } :=
        congrArg Turn.service hanswer
      rw [hafter, Roster.record_roster]
      exact ⟨o, hbody, rfl, rfl, rfl, Roster.recordedIn_keepsOthers now o s.roster.beacons⟩
  -- a sweep is a step of the roster
  · exact Roster.step_query s.roster (.expire now s.settings.tracking.staleTimeout)
  · exact Roster.step_labels s.roster (.expire now s.settings.tracking.staleTimeout)
  · show (s.roster.step (.expire now s.settings.tracking.staleTimeout)).roster.beacons.Sublist _
    rw [Roster.step_beacons]
    exact List.filter_sublist

/-- With one beacon tracked, a body that is no JSON is refused, no query takes the place of
none, and an observation of another address leaves the tracked beacon in its place. -/
theorem answer_frame_of_one_beacon :
    let now : Instant := ⟨0, 0, by decide, by decide, by decide, by decide⟩
    let b : Beacon := Beacon.seenAt "00:00:00:00:00:01" (-40) now
    let s : Service := ⟨{}, .ofBeacons [b] {}⟩
    let bad : Http.Request := .json .put "/api/beacons/filter" ""
    let put : Http.Request := .json .put "/api/beacons/filter" "\x7B\x7D"
    let post : Http.Request := .json .post "/api/beacons/observations" "[\"aa:bb:cc:dd:ee:ff\",-60]"
    (400 ≤ (s.answer now bad).answer.status ∧ (s.answer now bad).service = s) ∧
      (put.PutsQuery ∧ (s.answer now put).answer.status < 400 ∧
        ∃ query view, (s.answer now put).service =
          { s with roster := { s.roster with query, view } }) ∧
      (post.PostsObservation ∧ (s.answer now post).answer.status < 400 ∧
        ∃ o : Observation, Roster.KeepsOthers (DeviceAddress.normal o.address) [b]
          (s.answer now post).service.roster.beacons) := by
  intro now b s bad put post
  have hbad : 400 ≤ (s.answer now bad).answer.status := by decide +kernel
  have hput : put.PutsQuery := ⟨rfl, by decide +kernel⟩
  have hputOk : (s.answer now put).answer.status < 400 := by decide +kernel
  have hpost : post.PostsObservation := ⟨rfl, by decide +kernel⟩
  have hpostOk : (s.answer now post).answer.status < 400 := by decide +kernel
  refine ⟨⟨hbad, (answer_frame s now bad).1 (.inl hbad)⟩,
    ⟨hput, hputOk, (answer_frame s now put).2.1 hput hputOk⟩, hpost, hpostOk, ?_⟩
  obtain ⟨o, -, -, -, -, hkeeps⟩ := (answer_frame s now post).2.2.1 hpost hpostOk
  exact ⟨o, hkeeps⟩

end Service

end NearbyBeacons
