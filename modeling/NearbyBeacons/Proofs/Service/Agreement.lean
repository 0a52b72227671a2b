import NearbyBeacons.Proofs.Roster.Plain
import NearbyBeacons.Proofs.Service.Invariant
import NearbyBeacons.Proofs.Service.Position
/-!
# All answers describe the same list

Rows are shown in two ways, all of them at once and one by one, and counts are read off a view
that is kept from one call to the next. In every state that a run reaches they agree, with each
other and with the answers to the changes that led there. The main statement is
`run_answers_agree`.

A row is asked for by the decimal text of its position, which has to be below `2 ^ 64`. There are
far fewer addresses than that, and tracked addresses are distinct (`run_total_le`).
-/

namespace NearbyBeacons

/-! ### The beacon of an observation -/

namespace Roster

/-- After an observation there is a beacon of its address that shows its signal strength. -/
theorem exists_mem_recordedIn (now : Instant) (o : Observation) (beacons : List Beacon) :
    ∃ b ∈ recordedIn now o beacons,
      b.address = DeviceAddress.normal o.address ∧ b.rssi = o.rssi := by
  by_cases h : DeviceAddress.normal o.address ∈ beacons.map (·.address)
  · rw [recordedIn_of_tracked now h]
    obtain ⟨front, b, back, -, hb, hupdated⟩ := exists_updateFirst_eq (update o (o.sightedAt now)) h
    rw [hupdated]
    exact ⟨_, List.mem_append_right _ List.mem_cons_self, hb, rfl⟩
  · rw [recordedIn_of_untracked now h]
    exact ⟨_, List.mem_append_right _ (List.mem_singleton_self _), rfl, rfl⟩

/-- Where addresses are distinct, each beacon is the only one of its address. -/
theorem filter_address_eq {beacons : List Beacon} (h : (beacons.map (·.address)).Nodup) {b : Beacon}
    (hb : b ∈ beacons) : beacons.filter (·.address == b.address) = [b] := by
  induction beacons with
  | nil => cases hb
  | cons c beacons ih =>
    rw [List.map_cons, List.nodup_cons] at h
    rw [List.filter_cons]
    rcases List.mem_cons.mp hb with rfl | hb
    · have hnone : beacons.filter (·.address == b.address) = [] := by
        rw [List.filter_eq_nil_iff]
        intro d hd heq
        exact h.1 (List.mem_map.mpr ⟨d, hd, beq_iff_eq.mp heq⟩)
      rw [if_pos (beq_self_eq_true _), hnone]
    · have hne : ¬(c.address == b.address) = true := by
        rw [beq_iff_eq]
        intro heq
        exact h.1 (List.mem_map.mpr ⟨b, hb, heq.symm⟩)
      rw [if_neg hne, ih h.2 hb]

end Roster

namespace Service

/-! ### What is read -/

/-- Whoever gets a path is given a JSON value, at any time and with any headers and body. -/
def Gives (s : Service) (path : String) (value : Json) : Prop :=
  ∀ now r, r.IsFor .get path → (s.answer now r).answer = granted value

theorem gives_of_read {s : Service} {path : String} {value : Json} (route : Route)
    (hroute : Route.ofPath? path.toList = some route) (hmethod : .get ∈ route.methods)
    (hread : (s.read route).1 = Http.Response.ofJson 200 value) : s.Gives path value := by
  intro now r h
  rw [s.answer_of_get now (h.path_eq ▸ hroute) h.method_eq hmethod, hread]
  rfl

theorem gives_health (s : Service) : s.Gives "/health" s.health.toJson :=
  gives_of_read .health (by decide +kernel) (by decide) rfl

theorem gives_beacons (s : Service) : s.Gives "/api/beacons" s.rowList.1.toJson :=
  gives_of_read .beacons (by decide +kernel) (by decide) rfl

theorem gives_row {s : Service} {position : Nat} {b : Beacon}
    (hposition : position < Decimal.wordSize) (hb : s.roster.get? position = some b) :
    s.Gives (Route.rowPath position) (Row.render s.roster.labels b none).toJson := by
  refine gives_of_read _ (Route.ofPath?_rowPath position) (by simp [Route.methods]) ?_
  simp only [read, rowAt, positionOf_natText hposition, Roster.tryRenderRow, hb]
  rfl

/-- The visible list, read through a current view. -/
theorem rowList_eq {s : Service} (h : s.roster.IsCurrent) :
    s.rowList.1 = ⟨s.roster.query, s.roster.matching.length, s.roster.total,
      s.roster.matching.map fun b => Row.render s.roster.labels b none⟩ := by
  simp only [rowList, Roster.renderAll, h.visible_eq, h.count_eq]

/-- A notification about a list tells whether it has rows. -/
theorem ofCount_eq_invalidated_iff {s : Service} (h : s.roster.IsCurrent) :
    Notification.ofCount s.roster.count = .invalidated ↔ s.rowList.1.rows = [] := by
  rw [rowList_eq h, List.map_eq_nil_iff, h.count_eq, Notification.ofCount,
    ← List.length_eq_zero_iff]
  split <;> simp [*]

/-! ### States that a run reaches -/

theorem run_concat (s : Service) (steps : List Step) (t : Step) :
    s.run (steps ++ [t]) = (s.run steps).step t :=
  List.foldl_concat ..

theorem run_isCurrent (settings : Settings) (steps : List Step) :
    ((start settings).run steps).roster.IsCurrent := by
  rw [run_eq]
  exact Roster.run_isCurrent (Roster.ofBeacons_isCurrent [] settings.display) _

theorem run_query_ne_empty (settings : Settings) (steps : List Step) :
    ((start settings).run steps).roster.query ≠ some "" := by
  rw [run_eq]
  exact Roster.run_query_ne_empty (r := (start settings).roster) nofun _

/-- A service never tracks more beacons than there are addresses. -/
theorem run_total_le (settings : Settings) (steps : List Step) :
    ((start settings).run steps).roster.total ≤ 2 ^ 48 := by
  have hnormal : ∀ address ∈ ((start settings).run steps).roster.beacons.map (·.address),
      DeviceAddress.IsNormal address := by
    intro address hmem
    obtain ⟨b, hb, rfl⟩ := List.mem_map.mp hmem
    exact isNormal_address hb
  have hlength := DeviceAddress.length_le_of_isNormal (run_tracks settings steps).nodup hnormal
  rw [List.length_map] at hlength
  exact hlength

/-- What a service lists, and how the answers about single rows and about its health fit it. -/
structure Lists (s : Service) (list : RowList) : Prop where
  gives : s.Gives "/api/beacons" list.toJson
  length_rows : list.rows.length = list.count
  count_le : list.count ≤ list.total
  query_ne : list.query ≠ some ""
  gives_health : ∃ health : Health, s.Gives "/health" health.toJson ∧
    health.trackedBeacons = list.total
  /-- Every row is given by itself, too. -/
  gives_row : ∀ i < list.count, ∃ row, list.rows[i]? = some row ∧
    s.Gives (Route.rowPath i) row.toJson

theorem run_lists (settings : Settings) (steps : List Step) :
    Lists ((start settings).run steps) ((start settings).run steps).rowList.1 := by
  set s := (start settings).run steps with hs
  have hcurrent : s.roster.IsCurrent := run_isCurrent settings steps
  have htotal : s.roster.total ≤ 2 ^ 48 := run_total_le settings steps
  have hmatching : s.roster.matching.length ≤ s.roster.total := List.length_filter_le _ _
  have hgives := s.gives_beacons
  rw [rowList_eq hcurrent] at hgives ⊢
  refine ⟨hgives, List.length_map _, hmatching, run_query_ne_empty settings steps,
    ⟨s.health, s.gives_health, rfl⟩, ?_⟩
  intro i hi
  have hget : s.roster.get? i = some s.roster.matching[i] := by
    rw [hcurrent.get?_eq]
    exact List.getElem?_eq_getElem hi
  have hword : i < Decimal.wordSize := by
    have hlt : i < s.roster.matching.length := hi
    unfold Decimal.wordSize
    omega
  refine ⟨_, ?_, gives_row hword hget⟩
  rw [List.getElem?_map, List.getElem?_eq_getElem hi]
  rfl

/-- **All answers describe the same list.** In every state that a run reaches: the list that is
given has as many rows as it counts, no more than are tracked, which are as many as the report
of the health says; its query is none or not empty; and each row is what is given for its
position. A query that is put, or an observation that is posted, with the answer 200 is told
the count of the list that is given right after it, and `invalidated` exactly when that list has
no rows; the query is told, too, and is the one that was put, or none for the empty text; and
the address that an observation is told is that of exactly one tracked beacon, which shows the
posted signal strength. -/
theorem run_answers_agree (settings : Settings) (steps : List Step) :
    let s := (start settings).run steps
    (∃ list, Lists s list) ∧
      (∀ now r, r.PutsQuery → (s.answer now r).answer.status = 200 →
        ∃ (request : FilterRequest) (a : FilterAnswer) (list : RowList),
          bodyOf FilterRequest.record.decode r = .ok request ∧
          (s.answer now r).answer = granted a.toJson ∧ Lists (s.answer now r).service list ∧
          a.count = list.count ∧ a.query = list.query ∧
          a.query = (if request.query = some "" then none else request.query) ∧
          (a.notification = .invalidated ↔ list.rows = [])) ∧
      ∀ now r, r.PostsObservation → (s.answer now r).answer.status = 200 →
        ∃ (o : Observation) (a : ObservationAnswer) (list : RowList),
          bodyOf Observation.record.decode r = .ok o ∧
          (s.answer now r).answer = granted a.toJson ∧ Lists (s.answer now r).service list ∧
          a.count = list.count ∧ (a.notification = .invalidated ↔ list.rows = []) ∧
          ∃ b, (s.answer now r).service.roster.beacons.filter (·.address == a.address) = [b] ∧
            b.rssi = o.rssi := by
  intro s
  -- the state after a request is one that a run reaches, too
  have hafter : ∀ now r, (s.answer now r).service =
      (start settings).run (steps ++ [.request now r]) := fun now r =>
    ((start settings).run_concat steps (.request now r)).symm
  have hlists : ∀ now r, Lists (s.answer now r).service (s.answer now r).service.rowList.1 := by
    intro now r
    rw [hafter]
    exact run_lists settings _
  have hcurrent : ∀ now r, (s.answer now r).service.roster.IsCurrent := by
    intro now r
    rw [hafter]
    exact run_isCurrent settings _
  refine ⟨⟨_, run_lists settings steps⟩, ?_, ?_⟩
  · intro now r hput hstatus
    rcases s.answer_of_putsQuery now hput with ⟨fault, -, hanswer⟩ | ⟨request, hbody, hanswer⟩
    · have hfailed := fault.le_status
      rw [hanswer] at hstatus
      exact absurd (hfailed.trans_eq hstatus) (by decide)
    · have hservice : (s.answer now r).service = (s.putFilter request).service :=
        congrArg Turn.service hanswer
      have hnow := hcurrent now r
      have hgiven := hlists now r
      rw [hservice] at hnow hgiven ⊢
      refine ⟨request, (s.putFilter request).answer, _, hbody, congrArg Turn.answer hanswer,
        hgiven, rfl, rfl, ?_, ofCount_eq_invalidated_iff hnow⟩
      rw [← Roster.activeQuery_eq]
      exact Roster.step_query s.roster (.filter request.query)
  · intro now r hpost hstatus
    rcases s.answer_of_postsObservation now hpost with
      ⟨response, events, hanswer, hfailed⟩ | ⟨o, hbody, -, hanswer⟩
    · rw [hanswer] at hstatus
      exact absurd (hfailed.trans_eq hstatus) (by decide)
    · have hservice : (s.answer now r).service =
          { s with roster := (s.roster.record now o).roster } := congrArg Turn.service hanswer
      have hnow := hcurrent now r
      have hgiven := hlists now r
      have hnodup : ((s.answer now r).service.roster.beacons.map (·.address)).Nodup := by
        rw [hafter]
        exact (run_tracks settings _).nodup
      rw [hservice] at hnow hgiven hnodup ⊢
      refine ⟨o, observationAnswer o (s.roster.record now o), _, hbody,
        congrArg Turn.answer hanswer, hgiven, rfl, ofCount_eq_invalidated_iff hnow, ?_⟩
      rw [Roster.record_roster] at hnodup ⊢
      obtain ⟨b, hb, haddress, hrssi⟩ := Roster.exists_mem_recordedIn now o s.roster.beacons
      refine ⟨b, ?_, hrssi⟩
      rw [show (observationAnswer o (s.roster.record now o)).address = b.address from
        haddress.symm]
      exact Roster.filter_address_eq hnodup hb

/-- With one beacon tracked, a query that matches nothing and another observation of the
beacon are told what the list shows. -/
theorem answers_agree_after_observation :
    let now : Instant := ⟨0, 0, by decide, by decide, by decide, by decide⟩
    let post : Http.Request :=
      .json .post "/api/beacons/observations" "[\"aa:bb:cc:dd:ee:ff\",-60]"
    let put : Http.Request := .json .put "/api/beacons/filter" "[\"zz\"]"
    let s := (start {}).run [.request now post]
    (put.PutsQuery ∧ (s.answer now put).answer.status = 200 ∧
        ∃ (a : FilterAnswer) (list : RowList), (s.answer now put).answer = granted a.toJson ∧
          Lists (s.answer now put).service list ∧ a.count = list.count) ∧
      post.PostsObservation ∧ (s.answer now post).answer.status = 200 ∧
        ∃ (a : ObservationAnswer) (list : RowList),
          (s.answer now post).answer = granted a.toJson ∧
          Lists (s.answer now post).service list ∧ a.count = list.count := by
  intro now post put s
  have hput : put.PutsQuery := ⟨rfl, by decide +kernel⟩
  have hputOk : (s.answer now put).answer.status = 200 := by decide +kernel
  have hpost : post.PostsObservation := ⟨rfl, by decide +kernel⟩
  have hpostOk : (s.answer now post).answer.status = 200 := by decide +kernel
  obtain ⟨-, hputs, hposts⟩ := run_answers_agree {} [.request now post]
  obtain ⟨-, a, list, -, hanswer, hlists, hcount, -⟩ := hputs now put hput hputOk
  obtain ⟨-, a', list', -, hanswer', hlists', hcount', -⟩ := hposts now post hpost hpostOk
  exact ⟨⟨hput, hputOk, a, list, hanswer, hlists, hcount⟩,
    hpost, hpostOk, a', list', hanswer', hlists', hcount'⟩

end Service

end NearbyBeacons
