import Mathlib.Data.List.Induction
import NearbyBeacons.Roster
/-!
# Runs of a roster

A step is one of the three calls that change a roster: another query, an observation, or the
removal of stale beacons. A run is a list of steps; it leaves a roster, the answers in order
and what was reported.

What a step does to the tracked beacons depends on the tracked beacons alone
(`step_beacons`), and what it does to the query on the query alone (`step_query`); no step
touches the labels. Statements about all runs go by induction on the last step
(`run_induction`).
-/

namespace NearbyBeacons

/-- When an observation counts as made: at its own time, but not after `now`. -/
def Observation.sightedAt (o : Observation) (now : Instant) : Instant :=
  match o.seenAt with
  | none => now
  | some t => t.min now

namespace Roster

/-! ### Steps -/

/-- A call that changes a roster. Clock readings and the timeout are its own. -/
inductive Step where
  | filter (query : Option String)
  | record (now : Instant) (observation : Observation)
  | expire (now : Instant) (timeout : Span)
  deriving DecidableEq, Repr

/-- The answer to a step. -/
inductive Answer where
  | filtered (notification : Notification)
  | recorded (result : Recorded)
  | expired (removed : Nat)
  deriving DecidableEq, Repr

/-- The notification that an answer carries. Removing beacons is answered without one. -/
def Answer.notification? : Answer → Option Notification
  | filtered notification => some notification
  | recorded result => some result.notification
  | expired _ => none

/-- The roster after a step, its answer and what was reported. -/
def step (r : Roster) : Step → Outcome Answer
  | .filter query =>
    let o := r.applyFilter query
    ⟨o.roster, .filtered o.answer, o.events⟩
  | .record now observation =>
    let o := r.record now observation
    ⟨o.roster, .recorded o.answer, o.events⟩
  | .expire now timeout =>
    let o := r.expire now timeout
    ⟨o.roster, .expired o.answer, o.events⟩

/-- The roster after a run, its answers and what was reported. -/
def run (r : Roster) : List Step → Outcome (List Answer)
  | [] => ⟨r, [], []⟩
  | s :: steps =>
    let first := r.step s
    let rest := first.roster.run steps
    ⟨rest.roster, first.answer :: rest.answer, first.events ++ rest.events⟩

@[simp] theorem run_nil (r : Roster) : r.run [] = ⟨r, [], []⟩ := rfl

/-- A run goes on from where the run before it ended. -/
theorem run_append (r : Roster) (steps more : List Step) :
    r.run (steps ++ more) =
      ⟨((r.run steps).roster.run more).roster,
        (r.run steps).answer ++ ((r.run steps).roster.run more).answer,
        (r.run steps).events ++ ((r.run steps).roster.run more).events⟩ := by
  induction steps generalizing r with
  | nil => rfl
  | cons s steps ih =>
    simp only [List.cons_append, run, ih, List.append_assoc]

theorem run_concat_roster (r : Roster) (steps : List Step) (s : Step) :
    (r.run (steps ++ [s])).roster = ((r.run steps).roster.step s).roster := by
  rw [run_append]
  rfl

/-- What holds of a roster before any step, and is kept by every step, holds after every
run. -/
theorem run_induction {P : List Step → Roster → Prop} (r : Roster) (start : P [] r)
    (next : ∀ steps s, P steps (r.run steps).roster →
      P (steps ++ [s]) ((r.run steps).roster.step s).roster) (steps : List Step) :
    P steps (r.run steps).roster := by
  induction steps using List.reverseRecOn with
  | nil => exact start
  | append_singleton steps s ih =>
    rw [run_concat_roster]
    exact next steps s ih

/-! ### What a step does -/

/-- The tracked beacons after an observation. -/
def recordedIn (now : Instant) (o : Observation) (beacons : List Beacon) : List Beacon :=
  let address := DeviceAddress.normal o.address
  updateFirst address (update o (o.sightedAt now))
    (if !beacons.any (·.address == address) then
      beacons ++ [Beacon.seenAt address o.rssi (o.sightedAt now)]
    else beacons)

/-- The view that shows the beacons matching a query. -/
def viewOf (query : Option String) (beacons : List Beacon) : View :=
  match query with
  | none => .all
  | some query => .subset (matchingPositions (some query) 0 beacons)

/-- What a step does to the tracked beacons. -/
def Step.onBeacons : Step → List Beacon → List Beacon
  | filter _, beacons => beacons
  | record now o, beacons => recordedIn now o beacons
  | expire now timeout, beacons => beacons.filter (isFresh now timeout)

/-- What a step does to the query. -/
def Step.onQuery : Step → Option String → Option String
  | filter query, _ => activeQuery query
  | record .., query => query
  | expire .., query => query

theorem filter_not_isEmpty_eq_false {now : Instant} {timeout : Span} {beacons : List Beacon}
    (h : (beacons.filter fun b => !isFresh now timeout b).isEmpty = true) :
    beacons.filter (isFresh now timeout) = beacons := by
  rw [List.filter_eq_self]
  intro b hb
  by_contra hstale
  rw [Bool.not_eq_true] at hstale
  have hmem : b ∈ beacons.filter fun b => !isFresh now timeout b := by
    simp [hb, hstale]
  rw [List.isEmpty_iff.mp h] at hmem
  cases hmem

/-- A scan changes nothing but the view. -/
theorem refilter_roster (r : Roster) :
    r.refilter.roster = { r with view := viewOf r.query r.beacons } := by
  cases hq : r.query <;> simp [refilter, viewOf, hq]

/-- An observation is taken in, then the view is found anew. -/
theorem record_eq (r : Roster) (now : Instant) (o : Observation) :
    r.record now o =
      let address := DeviceAddress.normal o.address
      let created := !r.beacons.any (·.address == address)
      let filtered := refilter { r with beacons := recordedIn now o r.beacons }
      ⟨filtered.roster, ⟨created, filtered.answer⟩,
        (if created then [.newBeacon address o.rssi] else []) ++ filtered.events⟩ := rfl

/-- An observation changes the beacons, and the view is found anew. -/
theorem record_roster (r : Roster) (now : Instant) (o : Observation) :
    (r.record now o).roster =
      { r with
        beacons := recordedIn now o r.beacons
        view := viewOf r.query (recordedIn now o r.beacons) } :=
  refilter_roster _

/-- A removal answers how many beacons are stale. -/
theorem expire_answer (r : Roster) (now : Instant) (timeout : Span) :
    (r.expire now timeout).answer =
      (r.beacons.filter fun b => !isFresh now timeout b).length := by
  rw [expire]
  split
  · next hnone =>
    rw [List.isEmpty_iff.mp hnone]
    rfl
  · rfl

/-- What a step does to the beacons depends on them alone. -/
@[simp] theorem step_beacons (r : Roster) (s : Step) :
    (r.step s).roster.beacons = s.onBeacons r.beacons := by
  cases s with
  | filter query => simp [step, applyFilter, refilter_roster, Step.onBeacons]
  | record now o => simp [step, record_roster, Step.onBeacons]
  | expire now timeout =>
    simp only [step, expire, Step.onBeacons]
    split
    · next h => rw [filter_not_isEmpty_eq_false h]
    · simp [refilter_roster]

@[simp] theorem step_query (r : Roster) (s : Step) :
    (r.step s).roster.query = s.onQuery r.query := by
  cases s with
  | filter query => simp [step, applyFilter, refilter_roster, Step.onQuery]
  | record now o => simp [step, record_roster, Step.onQuery]
  | expire now timeout =>
    simp only [step, expire, Step.onQuery]
    split <;> simp [refilter_roster]

@[simp] theorem step_labels (r : Roster) (s : Step) : (r.step s).roster.labels = r.labels := by
  cases s with
  | filter query => simp [step, applyFilter, refilter_roster]
  | record now o => simp [step, record_roster]
  | expire now timeout =>
    simp only [step, expire]
    split <;> simp [refilter_roster]

@[simp] theorem run_labels (r : Roster) (steps : List Step) :
    (r.run steps).roster.labels = r.labels :=
  run_induction (P := fun _ after => after.labels = r.labels) r rfl
    (fun _ _ ih => by rw [step_labels, ih]) steps

/-! ### Observations -/

/-- Beacons of other addresses are passed over. -/
theorem updateFirst_append {address : String} (f : Beacon → Beacon) {beacons : List Beacon}
    (more : List Beacon) (h : address ∉ beacons.map (·.address)) :
    updateFirst address f (beacons ++ more) = beacons ++ updateFirst address f more := by
  induction beacons with
  | nil => rfl
  | cons b beacons ih =>
    rw [List.map_cons, List.mem_cons, not_or] at h
    simp only [List.cons_append, updateFirst, if_neg (Ne.symm h.1), ih h.2]

theorem any_address_iff {address : String} {beacons : List Beacon} :
    beacons.any (·.address == address) = true ↔ address ∈ beacons.map (·.address) := by
  simp [List.any_eq_true]

/-- An observation of a tracked address updates the first beacon that has it. -/
theorem recordedIn_of_tracked (now : Instant) {o : Observation} {beacons : List Beacon}
    (h : DeviceAddress.normal o.address ∈ beacons.map (·.address)) :
    recordedIn now o beacons =
      updateFirst (DeviceAddress.normal o.address) (update o (o.sightedAt now)) beacons := by
  simp [recordedIn, any_address_iff.mpr h]

/-- An observation of a new address adds a beacon at the end. -/
theorem recordedIn_of_untracked (now : Instant) {o : Observation} {beacons : List Beacon}
    (h : DeviceAddress.normal o.address ∉ beacons.map (·.address)) :
    recordedIn now o beacons = beacons ++
      [update o (o.sightedAt now)
        (Beacon.seenAt (DeviceAddress.normal o.address) o.rssi (o.sightedAt now))] := by
  have hany := mt any_address_iff.mp h
  rw [Bool.not_eq_true] at hany
  simp only [recordedIn, hany, Bool.not_false, if_true, updateFirst_append _ _ h]
  simp [updateFirst, Beacon.seenAt]

/-- An observation is answered as that of a new beacon when its address is not tracked. -/
theorem created_iff (r : Roster) (now : Instant) (o : Observation) :
    (r.record now o).answer.created = true ↔
      DeviceAddress.normal o.address ∉ r.beacons.map (·.address) := by
  rw [← any_address_iff, record_eq]
  simp

theorem created_eq_false_iff (r : Roster) (now : Instant) (o : Observation) :
    (r.record now o).answer.created = false ↔
      DeviceAddress.normal o.address ∈ r.beacons.map (·.address) := by
  rw [← Bool.not_eq_true, created_iff, not_not]

/-- Where an address is tracked, one beacon of that address is updated in its place. -/
theorem exists_updateFirst_eq {address : String} (f : Beacon → Beacon) {beacons : List Beacon}
    (h : address ∈ beacons.map (·.address)) :
    ∃ front b back, beacons = front ++ b :: back ∧ b.address = address ∧
      updateFirst address f beacons = front ++ f b :: back := by
  induction beacons with
  | nil => cases h
  | cons b beacons ih =>
    rw [updateFirst]
    split
    · next hb => exact ⟨[], b, beacons, rfl, hb, rfl⟩
    · next hb =>
      have hrest : address ∈ beacons.map (·.address) :=
        (List.mem_cons.mp h).resolve_left (Ne.symm hb)
      obtain ⟨front, c, back, rfl, hc, hupdated⟩ := ih hrest
      exact ⟨b :: front, c, back, rfl, hc, by rw [hupdated, List.cons_append]⟩

/-! ### Addresses -/

@[simp] theorem update_address (o : Observation) (seenAt : Instant) (b : Beacon) :
    (update o seenAt b).address = b.address := rfl

theorem map_address_updateFirst (address : String) {f : Beacon → Beacon}
    (hf : ∀ b, (f b).address = b.address) (beacons : List Beacon) :
    (updateFirst address f beacons).map (·.address) = beacons.map (·.address) := by
  induction beacons with
  | nil => rfl
  | cons b beacons ih =>
    rw [updateFirst]
    split
    · rw [List.map_cons, List.map_cons, hf]
    · rw [List.map_cons, List.map_cons, ih]

/-- An observation of a tracked beacon leaves the addresses, and another one adds its own. -/
theorem map_address_recordedIn (now : Instant) (o : Observation) (beacons : List Beacon) :
    (recordedIn now o beacons).map (·.address) =
      if DeviceAddress.normal o.address ∈ beacons.map (·.address) then beacons.map (·.address)
      else beacons.map (·.address) ++ [DeviceAddress.normal o.address] := by
  split
  · next ho =>
    rw [recordedIn_of_tracked now ho, map_address_updateFirst _ (update_address o _)]
  · next ho =>
    rw [recordedIn_of_untracked now ho, List.map_append]
    rfl

end Roster

end NearbyBeacons
