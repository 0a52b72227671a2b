import NearbyBeacons.Proofs.Service.Agreement
/-!
# Looking up a row

A request for a row names it by a segment of its path. Without its escapes the segment is no
text, or a text that is no numeral below `2 ^ 64`, or a number; and a number is the position of a
visible beacon, or lies behind the last one. Each of these has an answer of its own, in every state
that a run reaches (`run_lookup`): a row is given for a visible beacon only, and for each of them.
-/

namespace NearbyBeacons

/-- A request for what a segment behind the path of the list names, which is no fixed name. -/
structure Http.Request.LooksUp (r : Http.Request) (segment : String) : Prop where
  isFor : r.IsFor .get ("/api/beacons/" ++ segment)
  slash_not_mem : '/' ∉ segment.toList
  ne_empty : segment ≠ ""
  ne_filter : segment ≠ "filter"
  ne_observations : segment ≠ "observations"

theorem Http.Request.LooksUp.route_eq {r : Http.Request} {segment : String}
    (h : r.LooksUp segment) :
    Route.ofPath? (Http.pathOf r.target.toList) = some (.row segment) := by
  rw [h.isFor.path_eq]
  exact Route.ofPath?_row h.slash_not_mem h.ne_empty h.ne_filter h.ne_observations

namespace Service

/-! ### Refusals -/

/-- The response that refuses a request under a code, and that all origins may read. -/
def refused (status : Nat) (code message : String) : Http.Response :=
  (Http.Response.ofJson status (Problem.toJson { code, message })).addHeaders sharingHeaders

/-- The response about a position in a list of `count` rows that has none there. -/
def outOfRange (position count : Nat) : Http.Response :=
  refused 404 "position_out_of_range" <| "Position " ++ Decimal.natText position ++
    " is out of range for a list of " ++ Decimal.natText count ++ " beacons"

/-- The response about a segment that names no position. -/
def invalidPath (message : String) : Http.Response := refused 400 "invalid_path" message

/-! ### Answers -/

variable {s : Service} {r : Http.Request} {segment : String}

/-- The position of a visible beacon is answered with its row. -/
theorem answer_of_visible (now : Instant) (h : r.LooksUp segment) (hcurrent : s.roster.IsCurrent)
    {position : Nat} (hposition : positionOf segment = .ok position)
    (hvisible : position < s.roster.matching.length) :
    (s.answer now r).answer =
      granted (Row.render s.roster.labels s.roster.matching[position] none).toJson := by
  apply s.answer_of_rowAt_ok now h.route_eq h.isFor.method_eq
  simp only [rowAt, hposition, Roster.tryRenderRow, hcurrent.get?_eq,
    List.getElem?_eq_getElem hvisible]
  rfl

/-- A position behind the last visible beacon is answered with the number of those. -/
theorem answer_of_behind (now : Instant) (h : r.LooksUp segment) (hcurrent : s.roster.IsCurrent)
    {position : Nat} (hposition : positionOf segment = .ok position)
    (hbehind : s.roster.matching.length ≤ position) :
    (s.answer now r).answer = outOfRange position s.roster.matching.length := by
  have hrow : s.rowAt segment =
      .error (.ofError (.positionOutOfRange position s.roster.matching.length)) := by
    simp only [rowAt, hposition, Roster.tryRenderRow, hcurrent.get?_eq, hcurrent.count_eq,
      List.getElem?_eq_none hbehind]
    rfl
  rw [s.answer_of_rowAt_error now h.route_eq h.isFor.method_eq hrow,
    Refusal.ofError_positionOutOfRange]
  rfl

/-- A segment that names no position is answered with the fault. -/
theorem answer_of_fault (now : Instant) (h : r.LooksUp segment) {fault : PositionFault}
    (hposition : positionOf segment = .error fault) :
    (s.answer now r).answer = invalidPath fault.message := by
  have hrow : s.rowAt segment = .error (.invalidPath fault.message) := by
    simp only [rowAt, hposition]
  exact s.answer_of_rowAt_error now h.route_eq h.isFor.method_eq hrow

/-! ### All segments -/

/-- **Looking up a row is total and exact.** In every state that a run reaches, a request for a
segment behind the path of the list, other than the fixed names, is answered with the row of the
visible beacon at a position if the segment, without its escapes, is a numeral that writes the
position; with `position_out_of_range`, the number and the number of rows if it writes a number
below `2 ^ 64` and there is no row; and with `invalid_path` if it is a text of any other kind or no
text at all. So a sign alone and all characters other than digits and the plus sign are refused,
and no row is given but that of a visible beacon. -/
theorem run_lookup (settings : Settings) (steps : List Step) (now : Instant) {r : Http.Request}
    {segment : String} (h : r.LooksUp segment) :
    let s := (start settings).run steps
    let visible := s.roster.matching
    let response := (s.answer now r).answer
    let notNumber (text : List Char) :=
      invalidPath ("Invalid URL: Cannot parse `" ++ String.ofList text ++ "` to a `u64`")
    (∀ text k, Http.segmentText? segment.toList = some text → Decimal.IsNumeral text k →
        (∀ hk : k < visible.length,
          response = granted (Row.render s.roster.labels visible[k] none).toJson) ∧
        (visible.length ≤ k → k < 2 ^ 64 → response = outOfRange k visible.length)) ∧
      (∀ text, Http.segmentText? segment.toList = some text →
        (∀ k, Decimal.IsNumeral text k → 2 ^ 64 ≤ k) → response = notNumber text) ∧
      (∀ text, Http.segmentText? segment.toList = some text →
        (text = ['+'] ∨ ∃ c ∈ text, c.isDigit = false ∧ c ≠ '+') → response = notNumber text) ∧
      (Http.segmentText? segment.toList = none →
        response = invalidPath "Invalid URL: Invalid UTF-8 in `position`") ∧
      (response.status = 200 → ∃ b ∈ visible,
        response = granted (Row.render s.roster.labels b none).toJson) := by
  intro s visible response notNumber
  have hcurrent : s.roster.IsCurrent := run_isCurrent settings steps
  have hword : Decimal.wordSize = 2 ^ 64 := rfl
  -- a visible position is below `2 ^ 64`, since there are not that many addresses
  have hfew : visible.length < Decimal.wordSize := by
    have htotal : s.roster.total ≤ 2 ^ 48 := run_total_le settings steps
    have hle : visible.length ≤ s.roster.total := List.length_filter_le _ _
    omega
  have hnotNumber : ∀ text, Http.segmentText? segment.toList = some text →
      (∀ k, Decimal.IsNumeral text k → 2 ^ 64 ≤ k) → response = notNumber text :=
    fun text htext hlarge => answer_of_fault now h (positionOf_of_notNumber htext hlarge)
  have hvisible : ∀ k, positionOf segment = .ok k → ∀ hk : k < visible.length,
      response = granted (Row.render s.roster.labels visible[k] none).toJson :=
    fun k hposition hk => answer_of_visible now h hcurrent hposition hk
  refine ⟨?_, hnotNumber, ?_, ?_, ?_⟩
  · intro text k htext hnumeral
    constructor
    · intro hk
      exact hvisible k (positionOf_of_isNumeral htext hnumeral (hk.trans hfew)) hk
    · intro hk hlt
      exact answer_of_behind now h hcurrent (positionOf_of_isNumeral htext hnumeral hlt) hk
  · intro text htext hbad
    apply hnotNumber text htext
    intro k hnumeral
    obtain ⟨⟨d, hd, hdigit⟩, hall⟩ := hnumeral.forall_chars
    exfalso
    rcases hbad with rfl | ⟨c, hc, hnone, hplus⟩
    · rw [List.mem_singleton.mp hd] at hdigit
      cases hdigit
    · rcases hall c hc with hc | hc
      · rw [hnone] at hc
        cases hc
      · exact hplus hc
  · intro htext
    exact answer_of_fault now h (positionOf_of_notText htext)
  -- all other answers have another status
  · intro hstatus
    cases hposition : positionOf segment with
    | error fault =>
      rw [show response = _ from answer_of_fault now h hposition] at hstatus
      cases hstatus
    | ok k =>
      by_cases hk : k < visible.length
      · exact ⟨visible[k], List.getElem_mem hk, hvisible k hposition hk⟩
      · rw [show response = _ from
          answer_of_behind now h hcurrent hposition (Nat.not_lt.mp hk)] at hstatus
        cases hstatus

/-- Where one beacon of two is visible, its position with a plus sign and a zero in front leads to
its row, and what follows it, a negative number and a broken character lead nowhere. -/
theorem lookup_of_one_visible :
    let now : Instant := ⟨0, 0, by decide, by decide, by decide, by decide⟩
    let s := (start {}).run
      [.request now (.json .post "/api/beacons/observations" "[\"aa:bb:cc:dd:ee:ff\",-60]"),
        .request now (.json .post "/api/beacons/observations" "[\"01:23:45:67:89:ab\",-70]"),
        .request now (.json .put "/api/beacons/filter" "[\"89\"]")]
    let get (segment : String) : Http.Request := ⟨.get, "/api/beacons/" ++ segment, [], ""⟩
    let response (segment : String) := (s.answer now (get segment)).answer
    ((get "%2B00").LooksUp "%2B00" ∧ ∃ b ∈ s.roster.matching, b.address = "01:23:45:67:89:AB" ∧
        response "%2B00" = granted (Row.render s.roster.labels b none).toJson) ∧
      ((get "1").LooksUp "1" ∧ response "1" = outOfRange 1 1) ∧
      ((get "-0").LooksUp "-0" ∧
        response "-0" = invalidPath "Invalid URL: Cannot parse `-0` to a `u64`") ∧
      ((get "%FF").LooksUp "%FF" ∧
        response "%FF" = invalidPath "Invalid URL: Invalid UTF-8 in `position`") := by
  intro now s get response
  have hcount : s.roster.matching.length = 1 := by decide +kernel
  have haddress : ∀ b ∈ s.roster.matching, b.address = "01:23:45:67:89:AB" := by decide +kernel
  have hplus : (get "%2B00").LooksUp "%2B00" :=
    ⟨⟨rfl, by decide +kernel⟩, by decide, by decide, by decide, by decide⟩
  have hnext : (get "1").LooksUp "1" :=
    ⟨⟨rfl, by decide +kernel⟩, by decide, by decide, by decide, by decide⟩
  have hminus : (get "-0").LooksUp "-0" :=
    ⟨⟨rfl, by decide +kernel⟩, by decide, by decide, by decide, by decide⟩
  have hbroken : (get "%FF").LooksUp "%FF" :=
    ⟨⟨rfl, by decide +kernel⟩, by decide, by decide, by decide, by decide⟩
  refine ⟨⟨hplus, ?_⟩, ⟨hnext, ?_⟩, ⟨hminus, ?_⟩, hbroken, ?_⟩
  · have hnumeral : Decimal.IsNumeral ['+', '0', '0'] 0 :=
      ⟨[0, 0], by decide, by decide, .inr (by decide)⟩
    obtain ⟨hnumerals, -⟩ := run_lookup {} _ now hplus
    have hk : 0 < s.roster.matching.length := by rw [hcount]; decide
    exact ⟨_, List.getElem_mem hk, haddress _ (List.getElem_mem hk),
      (hnumerals _ 0 (by decide +kernel) hnumeral).1 hk⟩
  · have hnumeral : Decimal.IsNumeral ['1'] 1 := ⟨[1], by decide, by decide, .inl (by decide)⟩
    obtain ⟨hnumerals, -⟩ := run_lookup {} _ now hnext
    have hanswer := (hnumerals _ 1 (by decide +kernel) hnumeral).2 (Nat.le_of_eq hcount) (by decide)
    rw [hcount] at hanswer
    exact hanswer
  · obtain ⟨-, -, hcharacters, -⟩ := run_lookup {} _ now hminus
    exact hcharacters ['-', '0'] (by decide +kernel) (.inr ⟨'-', by decide, by decide, by decide⟩)
  · obtain ⟨-, -, -, hnoText, -⟩ := run_lookup {} _ now hbroken
    exact hnoText (by decide +kernel)

end Service

end NearbyBeacons
