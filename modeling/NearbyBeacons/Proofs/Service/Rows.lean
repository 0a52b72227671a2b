import NearbyBeacons.Proofs.Row
import NearbyBeacons.Proofs.Service.Agreement
import NearbyBeacons.Proofs.Settings.Checks
/-!
# Rows that are given show something

Accepted settings have placeholders that show something, tracked beacons have addresses, and the
labels of a service are those of its settings. So, in every state that a run reaches, each row of
the list and each row that is given by itself shows its beacon, with no text left blank that
should not be (`run_rows_show`).
-/

namespace NearbyBeacons

/-- An address in normal form begins with a digit. -/
theorem DeviceAddress.IsNormal.not_isBlankText {address : String} (h : IsNormal address) :
    Text.isBlankText address = false := by
  obtain ⟨groups, hlength, hdigits, hjoined⟩ := h
  obtain ⟨g, groups, rfl⟩ := List.exists_cons_of_length_eq_add_one hlength
  have hrest : groups ≠ [] := List.ne_nil_of_length_eq_add_one (Nat.succ.inj hlength)
  have hfirst : g.1 ∈ address.toList := by
    rw [hjoined, joined_cons g hrest]
    exact List.mem_cons_self
  have hblank : ∀ c ∈ Ascii.upperHexDigits, Text.isBlank c = false := by
    simp [Ascii.upperHexDigits, Text.isBlank]
  exact Text.isBlankText_eq_false hfirst (hblank _ (hdigits g List.mem_cons_self).1)

namespace Service

/-- With accepted settings, every tracked beacon has a row that shows it. -/
theorem render_shows {settings : Settings} (hvalid : settings.validate = .ok ())
    {steps : List Step} {b : Beacon}
    (hb : b ∈ ((start settings).run steps).roster.beacons) :
    Row.Shows settings.display b
      (Row.render ((start settings).run steps).roster.labels b none) := by
  rw [(run_sound settings steps).labels_eq]
  exact Row.render_shows (Settings.distanceUnknown_of_validate hvalid)
    (Settings.txPowerUnknown_of_validate hvalid) (isNormal_address hb).not_isBlankText none

/-- A row that is given by itself is that of the visible beacon at the position that the path
names. -/
theorem exists_of_row_given (s : Service) (now : Instant) {r : Http.Request} {segment : String}
    (hsegment : '/' ∉ segment.toList) (h : r.IsFor .get ("/api/beacons/" ++ segment))
    (hstatus : (s.answer now r).answer.status = 200) :
    ∃ position b, positionOf segment = .ok position ∧ s.roster.get? position = some b ∧
      (s.answer now r).answer = granted (Row.render s.roster.labels b none).toJson := by
  have hoptions : r.method ≠ .options := by
    rw [h.method_eq]
    decide
  have hroute : Route.ofPath? (Http.pathOf r.target.toList) =
      Route.ofSegments? ["", "api", "beacons", segment] := by
    rw [h.path_eq, Route.ofPath?_segment hsegment]
  rcases Route.ofSegments?_segment_cases segment with hcase | hcase | hcase | hcase
  · rw [s.status_of_no_route now (hroute.trans hcase) hoptions] at hstatus
    cases hstatus
  -- the fixed names are not read
  · rw [s.status_of_other_method now (hroute.trans hcase) (by simp [Route.methods, h.method_eq])
      hoptions] at hstatus
    cases hstatus
  · rw [s.status_of_other_method now (hroute.trans hcase) (by simp [Route.methods, h.method_eq])
      hoptions] at hstatus
    cases hstatus
  · have hrow := hroute.trans hcase
    rcases s.rowAt_cases segment with ⟨position, b, hposition, hget, hok⟩ | ⟨refusal, -, herror⟩
    · exact ⟨position, b, hposition, hget, s.answer_of_rowAt_ok now hrow h.method_eq hok⟩
    · rw [s.answer_of_rowAt_error now hrow h.method_eq herror] at hstatus
      exact absurd (refusal.le_status.trans_eq hstatus) (by decide)

/-- **Every row that is given shows its beacon.** With accepted settings, in every state that a
run reaches: the list has one row for each visible beacon, and shows it; and where a row is
given for one segment behind the path of the list, the segment names the position of a visible
beacon, and the row shows that one. -/
theorem run_rows_show (settings : Settings) (hvalid : settings.validate = .ok ())
    (steps : List Step) :
    let s := (start settings).run steps
    (∀ now r, r.IsFor .get "/api/beacons" → ∃ list : RowList,
        (s.answer now r).answer = granted list.toJson ∧
          List.Forall₂ (Row.Shows settings.display) s.roster.matching list.rows) ∧
      ∀ now r segment, '/' ∉ segment.toList → r.IsFor .get ("/api/beacons/" ++ segment) →
        (s.answer now r).answer.status = 200 → ∃ position b, ∃ row : Row,
          positionOf segment = .ok position ∧ s.roster.matching[position]? = some b ∧
            (s.answer now r).answer = granted row.toJson ∧ row.Shows settings.display b := by
  intro s
  have hcurrent : s.roster.IsCurrent := run_isCurrent settings steps
  have hshows : ∀ b ∈ s.roster.matching,
      Row.Shows settings.display b (Row.render s.roster.labels b none) := fun b hb =>
    render_shows hvalid (List.mem_filter.mp hb).1
  constructor
  · intro now r h
    refine ⟨s.rowList.1, s.gives_beacons now r h, ?_⟩
    rw [rowList_eq hcurrent, List.forall₂_map_right_iff, List.forall₂_same]
    exact hshows
  · intro now r segment hsegment h hstatus
    obtain ⟨position, b, hposition, hget, hanswer⟩ :=
      s.exists_of_row_given now hsegment h hstatus
    rw [hcurrent.get?_eq] at hget
    exact ⟨position, b, _, hposition, hget, hanswer, hshows b (List.mem_of_getElem? hget)⟩

/-- A beacon with a frame and a fault without a message, in the list and by itself. -/
theorem rows_show_of_one_beacon :
    let now : Instant := ⟨0, 0, by decide, by decide, by decide, by decide⟩
    let post : Http.Request := .json .post "/api/beacons/observations"
      "[\"aa:bb:cc:dd:ee:ff\",-60,null,[null,-20],[\"\"]]"
    let getList : Http.Request := ⟨.get, "/api/beacons", [], ""⟩
    let getRow : Http.Request := ⟨.get, "/api/beacons/0", [], ""⟩
    let s := (start {}).run [.request now post]
    Settings.validate {} = .ok () ∧
      (getList.IsFor .get "/api/beacons" ∧ ∃ list : RowList,
        (s.answer now getList).answer = granted list.toJson ∧
          List.Forall₂ (Row.Shows {}) s.roster.matching list.rows) ∧
      (getRow.IsFor .get ("/api/beacons/" ++ "0") ∧ (s.answer now getRow).answer.status = 200 ∧
        ∃ row : Row, (s.answer now getRow).answer = granted row.toJson ∧
          row.address = "AA:BB:CC:DD:EE:FF" ∧ Text.isBlankText row.distance = false ∧
          row.txPower.toInt? = some (-20)) := by
  intro now post getList getRow s
  have hvalid : Settings.validate {} = .ok () := by decide +kernel
  have hlist : getList.IsFor .get "/api/beacons" := ⟨rfl, by decide +kernel⟩
  have hrow : getRow.IsFor .get ("/api/beacons/" ++ "0") := ⟨rfl, by decide +kernel⟩
  have hstatus : (s.answer now getRow).answer.status = 200 := by decide +kernel
  have hbeacons : ∀ b ∈ s.roster.matching, b.address = "AA:BB:CC:DD:EE:FF" ∧
      b.hasUidFrame = true ∧ b.uidFrame.txPower = -20 := by
    decide +kernel
  obtain ⟨hlists, hrows⟩ := run_rows_show {} hvalid [.request now post]
  obtain ⟨position, b, row, -, hget, hanswer, hshows⟩ :=
    hrows now getRow "0" (by decide) hrow hstatus
  obtain ⟨haddress, huid, htxPower⟩ := hbeacons b (List.mem_of_getElem? hget)
  refine ⟨hvalid, ⟨hlist, hlists now getList hlist⟩, hrow, hstatus, row, hanswer,
    hshows.address_eq.trans haddress, hshows.distance, ?_⟩
  rw [hshows.toInt?_txPower huid, htxPower]
  rfl

end Service

end NearbyBeacons
