import NearbyBeacons.Proofs.Roster.Run
/-!
# The view of a roster

A roster with a query keeps the positions of the matching beacons from one call to the next.
The invariant is that the view is the one that a scan would find now (`IsCurrent`), and every
run keeps it (`run_isCurrent`). An observation may change what matches anywhere in the list, so
the list is scanned again after it; a removal that removes nothing leaves list and view as they
were.

Read through a current view, a roster shows the matching beacons in the order of the list
(`IsCurrent.get?_eq`, `IsCurrent.count_eq`, `IsCurrent.visible_eq`).
-/

namespace NearbyBeacons

namespace Roster

/-! ### Matching positions -/

/-- A position is found if the beacon there matches. -/
theorem mem_matchingPositions {query : Option String} {beacons : List Beacon} {start i : Nat} :
    i ∈ matchingPositions query start beacons ↔
      ∃ k b, i = start + k ∧ beacons[k]? = some b ∧ b.matchesQuery query = true := by
  induction beacons generalizing start with
  | nil => simp [matchingPositions]
  | cons b beacons ih =>
    have hstep : i ∈ matchingPositions query start (b :: beacons) ↔
        (b.matchesQuery query = true ∧ i = start) ∨
          i ∈ matchingPositions query (start + 1) beacons := by
      simp only [matchingPositions]
      split <;> simp [*]
    rw [hstep, ih]
    constructor
    · rintro (⟨hb, rfl⟩ | ⟨k, c, rfl, hc, hm⟩)
      · exact ⟨0, b, rfl, rfl, hb⟩
      · exact ⟨k + 1, c, by omega, hc, hm⟩
    · rintro ⟨k, c, rfl, hc, hm⟩
      cases k with
      | zero =>
        obtain rfl : b = c := by simpa using hc
        exact Or.inl ⟨hm, rfl⟩
      | succ k => exact Or.inr ⟨k, c, by omega, by simpa using hc, hm⟩

/-- Positions are found in rising order, and each of them once. -/
theorem pairwise_matchingPositions (query : Option String) (start : Nat) (beacons : List Beacon) :
    (matchingPositions query start beacons).Pairwise (· < ·) := by
  induction beacons generalizing start with
  | nil => exact List.Pairwise.nil
  | cons b beacons ih =>
    simp only [matchingPositions]
    split
    · refine List.Pairwise.cons ?_ (ih (start + 1))
      intro i hi
      obtain ⟨k, -, rfl, -⟩ := mem_matchingPositions.mp hi
      omega
    · exact ih (start + 1)

/-- Looking the matching positions up gives the matching beacons, in order. `before` stands
for the beacons that have been scanned already. -/
theorem map_matchingPositions (query : Option String) (before beacons : List Beacon) :
    (matchingPositions query before.length beacons).map (fun i => (before ++ beacons)[i]?) =
      (beacons.filter (·.matchesQuery query)).map some := by
  induction beacons generalizing before with
  | nil => rfl
  | cons b beacons ih =>
    have hrest := ih (before ++ [b])
    rw [List.append_assoc, List.singleton_append, List.length_append, List.length_singleton]
      at hrest
    simp only [matchingPositions, List.filter_cons]
    split
    · rw [List.map_cons, List.map_cons, hrest]
      simp
    · exact hrest

/-! ### Current views -/

/-- The view is the one that a scan for the query would find now. -/
def IsCurrent (r : Roster) : Prop := r.view = viewOf r.query r.beacons

theorem ofBeacons_isCurrent (beacons : List Beacon) (labels : Labels) :
    (ofBeacons beacons labels).IsCurrent := rfl

/-- A scan makes the view current, whatever it was. -/
theorem refilter_isCurrent (r : Roster) : r.refilter.roster.IsCurrent := by
  rw [refilter_roster]
  rfl

/-- Every step leaves the view current, one that removes nothing by leaving it alone. -/
theorem step_isCurrent {r : Roster} (h : r.IsCurrent) (s : Step) :
    (r.step s).roster.IsCurrent := by
  cases s with
  | filter query => exact refilter_isCurrent _
  | record now o => exact refilter_isCurrent _
  | expire now timeout =>
    simp only [step, expire]
    split
    -- nothing is stale, and without a new scan the old view has to do
    · exact h
    · exact refilter_isCurrent _

theorem run_isCurrent {r : Roster} (h : r.IsCurrent) (steps : List Step) :
    (r.run steps).roster.IsCurrent :=
  run_induction (P := fun _ after => after.IsCurrent) r h (fun _ s ih => step_isCurrent ih s) steps

/-! ### Active queries -/

/-- The empty text is no query. -/
theorem activeQuery_ne_empty (query : Option String) : activeQuery query ≠ some "" := by
  intro h
  obtain ⟨-, hq⟩ := Option.filter_eq_some_iff.mp h
  simp at hq

theorem step_query_ne_empty {r : Roster} (h : r.query ≠ some "") (s : Step) :
    (r.step s).roster.query ≠ some "" := by
  rw [step_query]
  cases s with
  | filter query => exact activeQuery_ne_empty query
  | record now o => exact h
  | expire now timeout => exact h

theorem run_query_ne_empty {r : Roster} (h : r.query ≠ some "") (steps : List Step) :
    (r.run steps).roster.query ≠ some "" :=
  run_induction (P := fun _ after => after.query ≠ some "") r h
    (fun _ s ih => step_query_ne_empty ih s) steps

/-! ### Reading a current view -/

/-- The beacons that match the query, in the order of the list. -/
def matching (r : Roster) : List Beacon := r.beacons.filter (·.matchesQuery r.query)

theorem matching_of_no_query {r : Roster} (h : r.query = none) : r.matching = r.beacons := by
  simp [matching, h, Beacon.matchesQuery]

namespace IsCurrent

variable {r : Roster}

theorem view_of_no_query (h : r.IsCurrent) (hq : r.query = none) : r.view = .all := by
  rw [h, hq]
  rfl

theorem view_of_query (h : r.IsCurrent) {query : String} (hq : r.query = some query) :
    r.view = .subset (matchingPositions (some query) 0 r.beacons) := by
  rw [h, hq]
  rfl

/-- A current view keeps positions only for a query, and those are the matching ones. -/
theorem positions_eq (h : r.IsCurrent) {positions : List Nat} (hv : r.view = .subset positions) :
    ∃ query, r.query = some query ∧ positions = matchingPositions (some query) 0 r.beacons := by
  cases hq : r.query with
  | none =>
    rw [h.view_of_no_query hq] at hv
    cases hv
  | some query =>
    rw [h.view_of_query hq] at hv
    cases hv
    exact ⟨query, rfl, rfl⟩

/-- The positions of a current view, looked up in the list. -/
theorem map_positions (h : r.IsCurrent) {positions : List Nat} (hv : r.view = .subset positions) :
    positions.map (fun i => r.beacons[i]?) = r.matching.map some := by
  obtain ⟨query, hq, rfl⟩ := h.positions_eq hv
  rw [matching, hq]
  exact map_matchingPositions (some query) [] r.beacons

theorem matching_of_all (h : r.IsCurrent) (hv : r.view = .all) : r.matching = r.beacons := by
  cases hq : r.query with
  | none => exact matching_of_no_query hq
  | some query =>
    rw [h.view_of_query hq] at hv
    cases hv

/-- As many beacons are counted as match. -/
theorem count_eq (h : r.IsCurrent) : r.count = r.matching.length := by
  unfold count
  split
  · next hv => rw [h.matching_of_all hv]
  · next positions hv =>
    have hlength := congrArg List.length (h.map_positions hv)
    simpa using hlength

/-- A position of the view is the place among the beacons that match. -/
theorem get?_eq (h : r.IsCurrent) (i : Nat) : r.get? i = r.matching[i]? := by
  unfold get?
  split
  · next hv => rw [h.matching_of_all hv]
  · next positions hv =>
    have hlookup := congrArg (·[i]?) (h.map_positions hv)
    simp only [List.getElem?_map] at hlookup
    cases hp : positions[i]? <;> cases hm : r.matching[i]? <;> simp_all

theorem visible_eq (h : r.IsCurrent) : r.visible = r.matching := by
  unfold visible
  split
  · next hv => rw [h.matching_of_all hv]
  · next positions hv =>
    have hmap : (positions.map (fun i => r.beacons[i]?)).filterMap id = r.matching := by
      rw [h.map_positions hv, List.filterMap_map]
      exact List.filterMap_some
    rw [← hmap, List.filterMap_map]
    rfl

/-! ### Rows one after another -/

/-- A position that shows a beacon has its row. -/
theorem renderRow_eq (h : r.IsCurrent) {i : Nat} {b : Beacon} (hb : r.matching[i]? = some b)
    (recycled : Option Row) :
    r.renderRow i recycled = (.ok (Row.render r.labels b recycled), [.renderingRow i]) := by
  rw [renderRow, itemAt, h.get?_eq, hb]
  rfl

/-- Rendering the first `n` positions in turn meets no fault and gives the rows of the first `n`
matching beacons. -/
theorem mapM_renderRow (h : r.IsCurrent) {n : Nat} (hn : n ≤ r.count) :
    (List.range n).mapM (fun i => (r.renderRow i none).1) =
      .ok ((r.matching.take n).map fun b => Row.render r.labels b none) := by
  induction n with
  | zero => rfl
  | succ n ih =>
    have hlt : n < r.matching.length := h.count_eq ▸ hn
    have hrow := h.renderRow_eq (List.getElem?_eq_getElem hlt) none
    rw [List.range_succ, List.mapM_append, ih (Nat.le_of_succ_le hn), List.take_add_one,
      List.getElem?_eq_getElem hlt, List.map_append, List.mapM_cons, List.mapM_nil, hrow]
    rfl

/-- **Rendering all rows is rendering one position after another**, from the first to the last. -/
theorem renderAll_eq (h : r.IsCurrent) :
    (List.range r.count).mapM (fun i => (r.renderRow i none).1) = .ok r.renderAll.1 ∧
      (List.range r.count).flatMap (fun i => (r.renderRow i none).2) = r.renderAll.2 := by
  constructor
  · rw [h.mapM_renderRow (Nat.le_refl _), h.count_eq, List.take_length, renderAll, h.visible_eq]
  · exact List.map_eq_flatMap.symm

end IsCurrent

end Roster

end NearbyBeacons
