import NearbyBeacons.Proofs.Roster.Plain
/-!
# Queries and tracking do not interfere

Queries decide what is shown and nothing about what is tracked: the tracking steps of a run,
taken alone, track the same beacons and give the same answers about them (`run_tracking`). In
the other direction a run shows what its last query asks for, whenever that was asked
(`run_query`), because the view is always the one that a scan would find now.

So a roster is decided by the tracking steps and the last query of its run
(`run_eq_of_tracking_eq`). The main statement, about two runs that differ in their queries, is
`run_tracking_independent`.
-/

namespace NearbyBeacons.Roster

/-! ### Tracking steps and queries of a run -/

/-- Whether a step is about what is tracked, and not about what is shown of it. -/
def Step.isTracking : Step → Bool
  | filter _ => false
  | record .. => true
  | expire .. => true

/-- The steps of a run that are about what is tracked. -/
def tracking (steps : List Step) : List Step := steps.filter Step.isTracking

/-- The query that a step asks for. -/
def Step.query? : Step → Option (Option String)
  | filter query => some query
  | record .. => none
  | expire .. => none

/-- The query that a run has asked for last. The empty text, no query and no step that asks
for one count as the same. -/
def lastQuery (steps : List Step) : Option String :=
  match (steps.filterMap Step.query?).getLast? with
  | some (some query) => if query = "" then none else some query
  | _ => none

/-- What an answer says about what is tracked. -/
inductive TrackingAnswer where
  | created (isNew : Bool)
  | removed (count : Nat)
  deriving DecidableEq, Repr

/-- What an answer says about what is tracked, leaving out the notification. -/
def Answer.tracking? : Answer → Option TrackingAnswer
  | filtered _ => none
  | recorded result => some (.created result.created)
  | expired removed => some (.removed removed)

theorem lastQuery_concat (steps : List Step) (s : Step) :
    lastQuery (steps ++ [s]) = s.onQuery (lastQuery steps) := by
  cases s with
  | filter query =>
    show lastQuery (steps ++ [.filter query]) = activeQuery query
    rw [activeQuery_eq, lastQuery, List.filterMap_append, List.getLast?_append]
    cases query with
    | none => rfl
    | some q => by_cases hq : q = "" <;> simp [Step.query?, hq]
  | record now o => simp [lastQuery, Step.query?, Step.onQuery]
  | expire now timeout => simp [lastQuery, Step.query?, Step.onQuery]

/-! ### What decides a roster -/

/-- What a step tells about what is tracked depends on the tracked beacons alone. -/
theorem tracking?_step_congr {r r' : Roster} (h : r.beacons = r'.beacons) (s : Step) :
    (r.step s).answer.tracking? = (r'.step s).answer.tracking? := by
  cases s with
  | filter query => rfl
  | record now o => simp only [step, record_eq, Answer.tracking?, h]
  | expire now timeout =>
    simp only [step, expire, h]
    split <;> rfl

/-- A run tracks what its tracking steps track, and is answered about it as they are. The two
rosters may show different parts of their beacons. -/
theorem run_tracking {r r' : Roster} (h : r.beacons = r'.beacons) (steps : List Step) :
    (r.run steps).roster.beacons = (r'.run (tracking steps)).roster.beacons ∧
      (r.run steps).answer.filterMap Answer.tracking? =
        (r'.run (tracking steps)).answer.filterMap Answer.tracking? := by
  induction steps generalizing r r' with
  | nil => exact ⟨h, rfl⟩
  | cons s steps ih =>
    by_cases hs : s.isTracking = true
    · have hcons : tracking (s :: steps) = s :: tracking steps := List.filter_cons_of_pos hs
      have hbeacons : (r.step s).roster.beacons = (r'.step s).roster.beacons := by
        rw [step_beacons, step_beacons, h]
      obtain ⟨ihbeacons, ihanswers⟩ := ih hbeacons
      rw [hcons]
      refine ⟨ihbeacons, ?_⟩
      simp only [run, List.filterMap_cons, tracking?_step_congr h s, ihanswers]
    -- a query leaves the tracked beacons alone and is answered with a notification only
    · have hcons : tracking (s :: steps) = tracking steps := List.filter_cons_of_neg hs
      obtain ⟨query, rfl⟩ : ∃ query, s = .filter query := by
        cases s with
        | filter query => exact ⟨query, rfl⟩
        | record now o => exact absurd rfl hs
        | expire now timeout => exact absurd rfl hs
      have hbeacons : (r.step (.filter query)).roster.beacons = r'.beacons := by
        rw [step_beacons]
        exact h
      rw [hcons]
      exact ih hbeacons

/-- The query of a roster is the one that was asked for last. -/
theorem run_query (beacons : List Beacon) (labels : Labels) (steps : List Step) :
    ((ofBeacons beacons labels).run steps).roster.query = lastQuery steps :=
  run_induction (P := fun steps r => r.query = lastQuery steps) (ofBeacons beacons labels) rfl
    (fun steps s ih => by rw [step_query, ih, lastQuery_concat]) steps

/-- A current view is decided by the beacons and the query. -/
theorem IsCurrent.ext {r r' : Roster} (h : r.IsCurrent) (h' : r'.IsCurrent)
    (hbeacons : r.beacons = r'.beacons) (hquery : r.query = r'.query)
    (hlabels : r.labels = r'.labels) : r = r' := by
  have hview : r.view = r'.view := by rw [h, h', hbeacons, hquery]
  cases r
  cases r'
  simp_all

/-- Tracking steps and the last query decide the roster that a run leaves. -/
theorem run_eq_of_tracking_eq (beacons : List Beacon) (labels : Labels) {steps steps' : List Step}
    (htracking : tracking steps = tracking steps') (hquery : lastQuery steps = lastQuery steps') :
    ((ofBeacons beacons labels).run steps).roster =
      ((ofBeacons beacons labels).run steps').roster := by
  have hcurrent := ofBeacons_isCurrent beacons labels
  refine (run_isCurrent hcurrent steps).ext (run_isCurrent hcurrent steps') ?_ ?_ ?_
  · rw [(run_tracking rfl steps).1, htracking, ← (run_tracking rfl steps').1]
  · rw [run_query, run_query, hquery]
  · rw [run_labels, run_labels]

/-- A step of a query and a tracking step may change places. -/
theorem run_filter_comm (beacons : List Beacon) (labels : Labels) (steps : List Step)
    (query : Option String) {s : Step} (hs : s.isTracking = true) :
    ((ofBeacons beacons labels).run (steps ++ [.filter query, s])).roster =
      ((ofBeacons beacons labels).run (steps ++ [s, .filter query])).roster := by
  apply run_eq_of_tracking_eq
  · have hfilter : (Step.filter query).isTracking = false := rfl
    simp [tracking, hs, hfilter]
  · have hsplit : ∀ a b : Step, steps ++ [a, b] = steps ++ [a] ++ [b] := by simp
    rw [hsplit, hsplit, lastQuery_concat, lastQuery_concat, lastQuery_concat, lastQuery_concat]
    cases s with
    | filter query => cases hs
    | record now o => rfl
    | expire now timeout => rfl

theorem run_pair_roster (r : Roster) (steps : List Step) (s t : Step) :
    (r.run (steps ++ [s, t])).roster = (((r.run steps).roster.step s).roster.step t).roster := by
  rw [run_append]
  rfl

/-- **Queries and tracking do not interfere.** Take two runs that contain the same tracking
steps, with any queries in between. Wherever both have come equally far they track the same
beacons; the answers say the same about every tracking step; and if both have asked for the
same query last, they leave the same roster, view and all. After any run a query can be asked
for before an observation or a removal or after it, and asking for the active query once more
changes nothing. -/
theorem run_tracking_independent (beacons : List Beacon) (labels : Labels)
    (steps steps' : List Step) (h : tracking steps = tracking steps') :
    let r := ofBeacons beacons labels
    (∀ before before', before <+: steps → before' <+: steps' →
        tracking before = tracking before' →
        (r.run before).roster.beacons = (r.run before').roster.beacons) ∧
      (r.run steps).roster.beacons = (r.run steps').roster.beacons ∧
      (r.run steps).answer.filterMap Answer.tracking? =
        (r.run steps').answer.filterMap Answer.tracking? ∧
      (lastQuery steps = lastQuery steps' → (r.run steps).roster = (r.run steps').roster) ∧
      let after := (r.run steps).roster
      (∀ query now o, ((after.applyFilter query).roster.record now o).roster =
          ((after.record now o).roster.applyFilter query).roster) ∧
        (∀ query now timeout, ((after.applyFilter query).roster.expire now timeout).roster =
          ((after.expire now timeout).roster.applyFilter query).roster) ∧
        (after.applyFilter after.query).roster = after := by
  intro r
  have hsame : ∀ before before', tracking before = tracking before' →
      (r.run before).roster.beacons = (r.run before').roster.beacons := by
    intro before before' hbefore
    rw [(run_tracking rfl before).1, hbefore, ← (run_tracking rfl before').1]
  refine ⟨fun before before' _ _ => hsame before before', hsame steps steps' h, ?_,
    run_eq_of_tracking_eq beacons labels h, ?_, ?_, ?_⟩
  · rw [(run_tracking rfl steps).2, h, ← (run_tracking rfl steps').2]
  · intro query now o
    have hcomm := run_filter_comm beacons labels steps query (s := .record now o) rfl
    rw [run_pair_roster, run_pair_roster] at hcomm
    exact hcomm
  · intro query now timeout
    have hcomm := run_filter_comm beacons labels steps query (s := .expire now timeout) rfl
    rw [run_pair_roster, run_pair_roster] at hcomm
    exact hcomm
  · have hcurrent : (r.run steps).roster.IsCurrent :=
      run_isCurrent (ofBeacons_isCurrent beacons labels) steps
    have hne : (r.run steps).roster.query ≠ some "" :=
      run_query_ne_empty (r := r) (by simp [r, ofBeacons]) steps
    refine (step_isCurrent hcurrent (.filter _)).ext hcurrent (step_beacons _ (.filter _)) ?_
      (step_labels _ (.filter _))
    rw [step_query]
    show activeQuery (r.run steps).roster.query = _
    cases hq : (r.run steps).roster.query with
    | none => rfl
    | some query =>
      rw [hq] at hne
      simpa [activeQuery] using hne

/-- Two queries, the later one empty, do not show in what an observation and a removal
leave. -/
theorem run_eq_without_queries :
    let now : Instant := ⟨0, 0, by decide, by decide, by decide, by decide⟩
    let o : Observation := { address := "aa:bb:cc:dd:ee:ff", rssi := -60 }
    let steps : List Step :=
      [.filter (some "zz"), .record now o, .filter (some ""), .expire now ⟨0⟩]
    let steps' : List Step := [.record now o, .expire now ⟨0⟩]
    tracking steps = tracking steps' ∧ lastQuery steps = lastQuery steps' ∧
      ((ofBeacons [] {}).run steps).roster = ((ofBeacons [] {}).run steps').roster := by
  intro now o steps steps'
  have htracking : tracking steps = tracking steps' := rfl
  have hquery : lastQuery steps = lastQuery steps' := by decide
  exact ⟨htracking, hquery, (run_tracking_independent [] {} steps steps' htracking).2.2.2.1 hquery⟩

end NearbyBeacons.Roster
