import Mathlib.Data.List.Basic
import NearbyBeacons.Proofs.Roster.View
/-!
# Rosters without a view

`PlainRoster` holds the tracked beacons, the query and the labels, and nothing else: each time
it is read it filters the whole list. It is what a roster with a view stands for, and
`run_agrees_with_plain` says that nobody can tell the two apart: after every run they have
given the same answers, reported the same events, and show the same beacons and rows at every
position.
-/

namespace NearbyBeacons

/-- A roster that finds the matching beacons anew each time it is read. -/
structure PlainRoster where
  beacons : List Beacon
  query : Option String
  labels : Labels

/-- A new plain roster, the answer of the step that made it, and what was reported. -/
structure PlainOutcome (α : Type) where
  roster : PlainRoster
  answer : α
  events : List Event

namespace PlainRoster

/-! ### Reading -/

/-- The beacons that match the query, in the order of the list. -/
def visible (p : PlainRoster) : List Beacon := p.beacons.filter (·.matchesQuery p.query)

/-- The number of visible beacons. -/
def count (p : PlainRoster) : Nat := p.visible.length

/-- What is told after a change: whether there is anything to show. -/
def notification (p : PlainRoster) : Notification :=
  if p.visible.isEmpty then .invalidated else .changed

/-- The complaint about a position past the last visible beacon. -/
def positionFault (p : PlainRoster) (position : Nat) : String :=
  "position " ++ Decimal.natText position ++ " out of range for " ++ Decimal.natText p.count ++
    " filtered beacons"

/-- The visible beacon at a position that the caller vouches for. -/
def itemAt (p : PlainRoster) (position : Nat) : Except String Beacon :=
  if h : position < p.visible.length then .ok p.visible[position]
  else .error (p.positionFault position)

/-- The row at a position that the caller vouches for, and what was reported. -/
def renderRow (p : PlainRoster) (position : Nat) (recycled : Option Row) :
    Except String Row × List Event :=
  ((p.itemAt position).map fun b => Row.render p.labels b recycled, [.renderingRow position])

/-- The row at a position. -/
def tryRenderRow (p : PlainRoster) (position : Nat) : Except RequestError Row :=
  if h : position < p.visible.length then .ok (Row.render p.labels p.visible[position] none)
  else .error (.positionOutOfRange position p.count)

/-- The rows of all visible beacons, and what was reported. -/
def renderAll (p : PlainRoster) : List Row × List Event :=
  (p.visible.map fun b => Row.render p.labels b none,
    (List.range p.count).map .renderingRow)

/-! ### Changing -/

/-- A plain roster of the given beacons, without a query. -/
def ofBeacons (beacons : List Beacon) (labels : Labels) : PlainRoster :=
  { beacons, query := none, labels }

/-- What is reported when the matching beacons are asked for again. -/
def filterApplied (p : PlainRoster) : Event :=
  .filterApplied p.query p.count p.beacons.length p.notification

/-- The tracked beacons after an observation that counts as made at `seenAt`. -/
def beaconsAfter (o : Observation) (seenAt : Instant) (beacons : List Beacon) : List Beacon :=
  let address := DeviceAddress.normal o.address
  match beacons.findIdx? (·.address == address) with
  | some i => beacons.modify i (Roster.update o seenAt)
  | none => beacons ++ [Roster.update o seenAt (Beacon.seenAt address o.rssi seenAt)]

/-- The plain roster after a step, its answer and what was reported. -/
def step (p : PlainRoster) : Roster.Step → PlainOutcome Roster.Answer
  | .filter query =>
    let after := { p with query := if query = some "" then none else query }
    ⟨after, .filtered after.notification, [after.filterApplied]⟩
  | .record now o =>
    let address := DeviceAddress.normal o.address
    let created := decide (address ∉ p.beacons.map (·.address))
    let after := { p with beacons := beaconsAfter o (o.sightedAt now) p.beacons }
    ⟨after, .recorded ⟨created, after.notification⟩,
      (if created then [.newBeacon address o.rssi] else []) ++ [after.filterApplied]⟩
  | .expire now timeout =>
    let kept := p.beacons.filter fun b => (b.age now).le timeout
    let lost := p.beacons.filter fun b => !(b.age now).le timeout
    let after := { p with beacons := kept }
    ⟨after, .expired (p.beacons.length - kept.length),
      lost.map (fun b => .beaconExpired b.address) ++
        if lost = [] then [] else [after.filterApplied]⟩

/-- The plain roster after a run, its answers and what was reported. -/
def run (p : PlainRoster) : List Roster.Step → PlainOutcome (List Roster.Answer)
  | [] => ⟨p, [], []⟩
  | s :: steps =>
    let first := p.step s
    let rest := first.roster.run steps
    ⟨rest.roster, first.answer :: rest.answer, first.events ++ rest.events⟩

end PlainRoster

namespace Roster

/-! ### Steps agree -/

/-- The roster without its view. -/
def plain (r : Roster) : PlainRoster := ⟨r.beacons, r.query, r.labels⟩

/-- Without a view, the matching beacons are found anew. -/
theorem plain_visible (r : Roster) : r.plain.visible = r.matching := rfl

theorem IsCurrent.plain_count {r : Roster} (h : r.IsCurrent) : r.plain.count = r.count :=
  h.count_eq.symm

/-- The cached count calls for the notification that the matching beacons call for. -/
theorem IsCurrent.ofCount_eq {r : Roster} (h : r.IsCurrent) :
    Notification.ofCount r.count = r.plain.notification := by
  rw [h.count_eq]
  unfold Notification.ofCount PlainRoster.notification
  rw [plain_visible]
  cases r.matching <;> simp

/-- The empty query is dropped, and any other is kept as it is. -/
theorem activeQuery_eq (query : Option String) :
    activeQuery query = if query = some "" then none else query := by
  cases query with
  | none => rfl
  | some q =>
    simp only [activeQuery, Option.filter_some, Option.some.injEq]
    by_cases hq : q = "" <;> simp [hq]

/-- To update the beacon of an address is to change the one at its position. -/
theorem updateFirst_eq_modify {address : String} (f : Beacon → Beacon) {beacons : List Beacon}
    {i : Nat} (h : beacons.findIdx? (·.address == address) = some i) :
    updateFirst address f beacons = beacons.modify i f := by
  induction beacons generalizing i with
  | nil => simp at h
  | cons b beacons ih =>
    rw [List.findIdx?_cons] at h
    by_cases hb : b.address = address
    · rw [if_pos (beq_iff_eq.mpr hb)] at h
      obtain rfl : 0 = i := Option.some.inj h
      simp [updateFirst, hb]
    · rw [if_neg (mt beq_iff_eq.mp hb)] at h
      obtain ⟨j, hj, rfl⟩ := Option.map_eq_some_iff.mp h
      simp [updateFirst, hb, ih hj]

/-- Both rosters track the same beacons after an observation. -/
theorem recordedIn_eq_beaconsAfter (now : Instant) (o : Observation) (beacons : List Beacon) :
    recordedIn now o beacons = PlainRoster.beaconsAfter o (o.sightedAt now) beacons := by
  simp only [PlainRoster.beaconsAfter]
  by_cases h : DeviceAddress.normal o.address ∈ beacons.map (·.address)
  · rw [recordedIn_of_tracked now h]
    split
    · next i hi => exact updateFirst_eq_modify _ hi
    · next hnone =>
      rw [List.findIdx?_eq_none_iff] at hnone
      obtain ⟨b, hb, hba⟩ := List.mem_map.mp h
      have hne := hnone b hb
      rw [hba, beq_self_eq_true] at hne
      cases hne
  · rw [recordedIn_of_untracked now h]
    split
    · next i hi =>
      obtain ⟨hlt, heq, -⟩ := List.findIdx?_eq_some_iff_getElem.mp hi
      exact absurd (List.mem_map.mpr ⟨_, List.getElem_mem hlt, beq_iff_eq.mp heq⟩) h
    · rfl

/-- Finding the view anew is answered and reported as the plain roster would. -/
theorem refilter_plain (r : Roster) :
    r.refilter.roster.plain = r.plain ∧ r.refilter.answer = r.plain.notification ∧
      r.refilter.events = [r.plain.filterApplied] := by
  have hplain : r.refilter.roster.plain = r.plain := by
    rw [refilter_roster]
    rfl
  have hcurrent := refilter_isCurrent r
  have hcount := hcurrent.plain_count
  have hanswer : r.refilter.answer = r.plain.notification := by
    rw [← hplain, ← hcurrent.ofCount_eq]
    rfl
  refine ⟨hplain, hanswer, ?_⟩
  rw [hplain] at hcount
  show [Event.filterApplied r.query r.refilter.roster.count r.refilter.roster.total
    r.refilter.answer] = _
  rw [← hcount, hanswer, refilter_roster]
  rfl

/-- One step of a roster is one step of the plain roster. -/
theorem step_plain (r : Roster) (s : Step) :
    (r.step s).roster.plain = (r.plain.step s).roster ∧
      (r.step s).answer = (r.plain.step s).answer ∧
      (r.step s).events = (r.plain.step s).events := by
  cases s with
  | filter query =>
    obtain ⟨hroster, hanswer, hevents⟩ := refilter_plain { r with query := activeQuery query }
    simp only [plain, activeQuery_eq] at hroster hanswer hevents
    simp only [step, applyFilter, PlainRoster.step, plain, activeQuery_eq]
    exact ⟨hroster, congrArg Answer.filtered hanswer, hevents⟩
  | record now o =>
    obtain ⟨hroster, hanswer, hevents⟩ :=
      refilter_plain { r with beacons := recordedIn now o r.beacons }
    have hcreated : (!r.beacons.any (·.address == DeviceAddress.normal o.address)) =
        decide (DeviceAddress.normal o.address ∉ r.beacons.map (·.address)) := by
      rw [Bool.eq_iff_iff, decide_eq_true_iff, ← any_address_iff]
      simp
    simp only [plain, recordedIn_eq_beaconsAfter] at hroster hanswer hevents
    simp only [step, record_eq, PlainRoster.step, plain, recordedIn_eq_beaconsAfter, hcreated,
      hanswer, hevents]
    exact ⟨hroster, rfl, rfl⟩
  | expire now timeout =>
    obtain ⟨hroster, -, hevents⟩ :=
      refilter_plain { r with beacons := r.beacons.filter (isFresh now timeout) }
    have hremoved : (r.beacons.filter fun b => !isFresh now timeout b).length =
        r.beacons.length - (r.beacons.filter (isFresh now timeout)).length := by
      rw [List.length_eq_length_filter_add (l := r.beacons) (isFresh now timeout)]
      omega
    -- the roster is left alone where nothing is stale; the plain one filters all the same
    by_cases h : (r.beacons.filter fun b => !isFresh now timeout b).isEmpty = true
    · have hkept : (r.beacons.filter fun b => (b.age now).le timeout) = r.beacons :=
        filter_not_isEmpty_eq_false h
      have hlost : (r.beacons.filter fun b => !(b.age now).le timeout) = [] :=
        List.isEmpty_iff.mp h
      simp only [step, expire, if_pos h]
      simp [PlainRoster.step, plain, hkept, hlost]
    · have hlost : (r.plain.beacons.filter fun b => !(b.age now).le timeout) ≠ [] :=
        mt List.isEmpty_iff.mpr h
      simp only [step, expire, if_neg h, hremoved, hevents]
      refine ⟨hroster, rfl, ?_⟩
      show _ = _ ++ _
      rw [if_neg hlost]
      rfl

/-- A run of a roster is a run of the plain roster. -/
theorem run_plain (r : Roster) (steps : List Step) :
    (r.run steps).roster.plain = (r.plain.run steps).roster ∧
      (r.run steps).answer = (r.plain.run steps).answer ∧
      (r.run steps).events = (r.plain.run steps).events := by
  induction steps generalizing r with
  | nil => exact ⟨rfl, rfl, rfl⟩
  | cons s steps ih =>
    obtain ⟨hroster, hanswer, hevents⟩ := step_plain r s
    obtain ⟨ihroster, ihanswer, ihevents⟩ := ih (r.step s).roster
    simp only [run, PlainRoster.run]
    rw [hroster] at ihroster ihanswer ihevents
    exact ⟨ihroster, by rw [hanswer, ihanswer], by rw [hevents, ihevents]⟩

/-! ### Readings agree -/

/-- A roster and a plain roster that read alike: the same beacons, query, labels and counts,
and the same beacon, row or complaint at every position. -/
structure ReadsLike (r : Roster) (p : PlainRoster) : Prop where
  beacons : r.beacons = p.beacons
  query : r.query = p.query
  labels : r.labels = p.labels
  count : r.count = p.count
  get? : ∀ position, r.get? position = p.visible[position]?
  itemAt : ∀ position, r.itemAt position = p.itemAt position
  renderRow : ∀ position recycled, r.renderRow position recycled = p.renderRow position recycled
  tryRenderRow : ∀ position, r.tryRenderRow position = p.tryRenderRow position
  renderAll : r.renderAll = p.renderAll

/-- A position of a current view shows what is there without a view. -/
theorem IsCurrent.itemAt_plain {r : Roster} (h : r.IsCurrent) (position : Nat) :
    r.itemAt position = r.plain.itemAt position := by
  unfold itemAt PlainRoster.itemAt
  rw [h.get?_eq, ← plain_visible]
  split
  · next b hb =>
    obtain ⟨hlt, rfl⟩ := List.getElem?_eq_some_iff.mp hb
    rw [dif_pos hlt]
  · next hb =>
    rw [dif_neg (Nat.not_lt.mpr (List.getElem?_eq_none_iff.mp hb))]
    simp only [positionFault, PlainRoster.positionFault, h.plain_count]

theorem IsCurrent.readsLike_plain {r : Roster} (h : r.IsCurrent) : ReadsLike r r.plain where
  beacons := rfl
  query := rfl
  labels := rfl
  count := h.count_eq
  get? := h.get?_eq
  itemAt := h.itemAt_plain
  renderRow position recycled := by
    simp only [Roster.renderRow, PlainRoster.renderRow, h.itemAt_plain, plain]
  tryRenderRow position := by
    unfold Roster.tryRenderRow PlainRoster.tryRenderRow
    rw [h.get?_eq, ← plain_visible, h.plain_count]
    split
    · next b hb =>
      obtain ⟨hlt, rfl⟩ := List.getElem?_eq_some_iff.mp hb
      rw [dif_pos hlt]
      rfl
    · next hb => rw [dif_neg (Nat.not_lt.mpr (List.getElem?_eq_none_iff.mp hb))]
  renderAll := by
    simp only [Roster.renderAll, PlainRoster.renderAll, h.visible_eq, plain_visible, h.plain_count]
    rfl

/-! ### What is shown -/

/-- What whoever reads a roster may rely on. -/
structure ShowsMatching (r : Roster) : Prop where
  query_ne : r.query ≠ some ""
  /-- The positions count through the matching beacons, in the order of the list. -/
  get?_eq : ∀ i, r.get? i = (r.beacons.filter (·.matchesQuery r.query))[i]?
  count_eq : r.count = (r.beacons.filter (·.matchesQuery r.query)).length
  /-- Below the count every way of reading a position shows the same beacon. -/
  present : ∀ i, i < r.count → ∃ b, r.get? i = some b ∧ r.itemAt i = .ok b ∧
    (∀ recycled, (r.renderRow i recycled).1 = .ok (Row.render r.labels b recycled)) ∧
    r.tryRenderRow i = .ok (Row.render r.labels b none)
  /-- From the count on there is nothing, and every way of reading says so. -/
  absent : ∀ i, r.count ≤ i → r.get? i = none ∧ r.itemAt i = .error (r.positionFault i) ∧
    (∀ recycled, (r.renderRow i recycled).1 = .error (r.positionFault i)) ∧
    r.tryRenderRow i = .error (.positionOutOfRange i r.count)
  /-- No kept position points past the tracked beacons. -/
  inRange : ∀ positions, r.view = .subset positions → ∀ i ∈ positions, i < r.beacons.length
  /-- Every matching position is kept once, in order. -/
  once : ∀ positions, r.view = .subset positions → positions.Pairwise (· < ·) ∧
    ∀ i, i ∈ positions ↔ ∃ b, r.beacons[i]? = some b ∧ b.matchesQuery r.query = true

theorem IsCurrent.mem_positions_iff {r : Roster} (h : r.IsCurrent) {positions : List Nat}
    (hv : r.view = .subset positions) (i : Nat) :
    i ∈ positions ↔ ∃ b, r.beacons[i]? = some b ∧ b.matchesQuery r.query = true := by
  obtain ⟨query, hq, rfl⟩ := h.positions_eq hv
  rw [mem_matchingPositions, hq]
  simp

theorem IsCurrent.pairwise_positions {r : Roster} (h : r.IsCurrent) {positions : List Nat}
    (hv : r.view = .subset positions) : positions.Pairwise (· < ·) := by
  obtain ⟨query, -, rfl⟩ := h.positions_eq hv
  exact pairwise_matchingPositions (some query) 0 r.beacons

theorem IsCurrent.showsMatching {r : Roster} (h : r.IsCurrent) (hq : r.query ≠ some "") :
    ShowsMatching r where
  query_ne := hq
  get?_eq := h.get?_eq
  count_eq := h.count_eq
  present i hi := by
    obtain ⟨b, hget⟩ : ∃ b, r.get? i = some b := by
      rw [h.get?_eq]
      exact ⟨_, List.getElem?_eq_getElem (h.count_eq ▸ hi)⟩
    refine ⟨b, hget, ?_, fun recycled => ?_, ?_⟩
    · simp only [itemAt, hget]
    · simp only [renderRow, itemAt, hget]
      rfl
    · simp only [tryRenderRow, hget]
  absent i hi := by
    have hget : r.get? i = none := by
      rw [h.get?_eq, List.getElem?_eq_none_iff, ← h.count_eq]
      exact hi
    refine ⟨hget, ?_, fun recycled => ?_, ?_⟩
    · simp only [itemAt, hget]
    · simp only [renderRow, itemAt, hget]
      rfl
    · simp only [tryRenderRow, hget]
  inRange positions hv i hi := by
    obtain ⟨b, hb, -⟩ := (h.mem_positions_iff hv i).mp hi
    exact (List.getElem?_eq_some_iff.mp hb).1
  once positions hv := ⟨h.pairwise_positions hv, h.mem_positions_iff hv⟩

/-- A notification says whether anything is visible after the step that gave it. -/
theorem notification_step_plain (r : Roster) (s : Step) {n : Notification}
    (hn : (r.step s).answer.notification? = some n) :
    n = (r.step s).roster.plain.notification := by
  obtain ⟨hroster, hanswer, -⟩ := step_plain r s
  rw [hanswer] at hn
  rw [hroster]
  cases s with
  | filter query => exact (Option.some.inj hn).symm
  | record now o => exact (Option.some.inj hn).symm
  | expire now timeout => cases hn

theorem IsCurrent.notification_eq_invalidated_iff {r : Roster} (h : r.IsCurrent) :
    r.plain.notification = .invalidated ↔ ∀ i, r.get? i = none := by
  have hempty : (∀ i, r.get? i = none) ↔ r.matching = [] := by
    constructor
    · intro hnone
      have hfirst := hnone 0
      rw [h.get?_eq, List.getElem?_eq_none_iff] at hfirst
      exact List.length_eq_zero_iff.mp (Nat.le_zero.mp hfirst)
    · intro hnil i
      rw [h.get?_eq, hnil, List.getElem?_nil]
  rw [hempty, ← List.isEmpty_iff, ← plain_visible]
  unfold PlainRoster.notification
  split <;> simp [*]

/-- **A kept view is never stale.** After every run a roster has given the answers of a roster
that filters its list at each read, has reported the same events, and reads alike at every
position; what it shows are the matching beacons, each once and in order. The notification
about any next step is `invalidated` exactly when nothing is shown after it. -/
theorem run_agrees_with_plain (beacons : List Beacon) (labels : Labels) (steps : List Step) :
    let o := (ofBeacons beacons labels).run steps
    let p := (PlainRoster.ofBeacons beacons labels).run steps
    o.answer = p.answer ∧ o.events = p.events ∧ ReadsLike o.roster p.roster ∧
      ShowsMatching o.roster ∧
      ∀ s n, (o.roster.step s).answer.notification? = some n →
        (n = .invalidated ↔ ∀ i, (o.roster.step s).roster.get? i = none) := by
  intro o p
  obtain ⟨hroster, hanswer, hevents⟩ := run_plain (ofBeacons beacons labels) steps
  have hcurrent : o.roster.IsCurrent := run_isCurrent (ofBeacons_isCurrent beacons labels) steps
  have hquery : o.roster.query ≠ some "" :=
    run_query_ne_empty (r := ofBeacons beacons labels) (by simp [ofBeacons]) steps
  refine ⟨hanswer, hevents, ?_, hcurrent.showsMatching hquery, ?_⟩
  · have hlike := hcurrent.readsLike_plain
    rw [show o.roster.plain = p.roster from hroster] at hlike
    exact hlike
  · intro s n hn
    rw [notification_step_plain o.roster s hn]
    exact (step_isCurrent hcurrent s).notification_eq_invalidated_iff

end Roster

end NearbyBeacons
