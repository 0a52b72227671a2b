import NearbyBeacons.Proofs.Service.Answer
/-!
# How failures are reported

A request that is refused is told why as JSON, under a code. That holds of every failure at
the resources of the service but one kind: a body that cannot be read is answered with a
sentence of plain text (`failure_reports_problem_iff`).
-/

namespace NearbyBeacons

/-! ### Reports -/

/-- A response that reports a problem as JSON, under a code. -/
structure Http.Response.ReportsProblem (response : Http.Response) : Prop where
  contentType : response.headers.value? "content-type" = some "application/json"
  exists_body : ∃ p : Problem, p.code ≠ "" ∧ response.body = .json p.toJson

namespace Service

theorem contentType_refusal (refusal : Refusal) :
    (refusal.response.addHeaders sharingHeaders).headers.value? "content-type" =
      some "application/json" := by
  show Http.Headers.value? ([("content-type", "application/json")] ++ sharingHeaders) _ = _
  decide +kernel

theorem contentType_fault (fault : BodyFault) :
    (fault.response.addHeaders sharingHeaders).headers.value? "content-type" =
      some "text/plain; charset=utf-8" := by
  show Http.Headers.value? ([("content-type", "text/plain; charset=utf-8")] ++ sharingHeaders) _ = _
  decide +kernel

theorem reportsProblem_refusal {refusal : Refusal} (h : refusal.code ≠ "") :
    (refusal.response.addHeaders sharingHeaders).ReportsProblem where
  contentType := contentType_refusal refusal
  exists_body := ⟨refusal.problem, h, rfl⟩

/-- A sentence of plain text reports no problem. -/
theorem not_reportsProblem_fault (fault : BodyFault) :
    ¬(fault.response.addHeaders sharingHeaders).ReportsProblem := by
  intro h
  have htype := h.contentType
  rw [contentType_fault] at htype
  exact absurd htype (by decide)

end Service

/-! ### Requests that reach a route -/

/-- A request for a route by one of its methods. -/
structure Http.Request.Reaches (r : Http.Request) (route : Route) : Prop where
  route_eq : Route.ofPath? (Http.pathOf r.target.toList) = some route
  method_mem : r.method ∈ route.methods

theorem Http.Request.Reaches.putsQuery {r : Http.Request} (h : r.Reaches .filter) : r.PutsQuery :=
  ⟨List.mem_singleton.mp h.method_mem, Route.ofPath?_eq_filter_iff.mp h.route_eq⟩

theorem Http.Request.Reaches.postsObservation {r : Http.Request} (h : r.Reaches .observations) :
    r.PostsObservation :=
  ⟨List.mem_singleton.mp h.method_mem, Route.ofPath?_eq_observations_iff.mp h.route_eq⟩

/-- The routes that are not read take a body. -/
theorem Route.eq_of_get_not_mem {route : Route} (h : .get ∉ route.methods) :
    route = .filter ∨ route = .observations := by
  cases route <;> simp_all [methods]

/-- The body that a route takes cannot be read from a request, on account of a fault. -/
inductive Http.Request.IsUnreadable (r : Http.Request) : Route → BodyFault → Prop
  | filter {fault : BodyFault} (h : bodyOf FilterRequest.record.decode r = .error fault) :
    IsUnreadable r .filter fault
  | observations {fault : BodyFault} (h : bodyOf Observation.record.decode r = .error fault) :
    IsUnreadable r .observations fault

namespace Service

/-! ### Bodies that cannot be read -/

theorem answer_of_isUnreadable (s : Service) (now : Instant) {r : Http.Request} {route : Route}
    {fault : BodyFault} (hreaches : r.Reaches route) (hfault : r.IsUnreadable route fault) :
    s.answer now r = ⟨s, fault.response.addHeaders sharingHeaders, []⟩ := by
  cases hfault with
  | filter hbody =>
    rcases s.answer_of_putsQuery now hreaches.putsQuery with
      ⟨fault', hbody', hanswer⟩ | ⟨request, hbody', -⟩
    · rw [hbody] at hbody'
      obtain rfl := Except.error.inj hbody'
      exact hanswer
    · rw [hbody] at hbody'
      cases hbody'
  | observations hbody => exact s.answer_of_unreadable now hreaches.postsObservation hbody

/-! ### Refusals -/

/-- What is read fails only by a refusal. -/
theorem exists_refusal_of_read {s : Service} {route : Route} (hget : .get ∈ route.methods)
    (hstatus : 400 ≤ (s.read route).1.status) :
    ∃ refusal : Refusal, refusal.code ≠ "" ∧ (s.read route).1 = refusal.response := by
  have hgiven : ∀ value, (s.read route).1 ≠ .ofJson 200 value := by
    intro value h
    rw [h] at hstatus
    exact absurd hstatus (by show ¬400 ≤ 200; decide)
  cases route with
  | filter => simp [Route.methods] at hget
  | observations => simp [Route.methods] at hget
  | health => exact absurd rfl (hgiven _)
  | beacons => exact absurd rfl (hgiven _)
  | document => exact absurd rfl (hgiven _)
  | row segment =>
    rcases s.rowAt_cases segment with ⟨position, b, -, -, hrow⟩ | ⟨refusal, hcode, hrow⟩
    · exact absurd (by simp only [read, hrow]) (hgiven (Row.render s.roster.labels b none).toJson)
    · exact ⟨refusal, hcode, by simp only [read, hrow]⟩

/-- Where the body can be read, or none is taken, a failure is a refusal. -/
theorem exists_refusal_of_failure (s : Service) (now : Instant) {r : Http.Request}
    {route : Route} (hreaches : r.Reaches route)
    (hreadable : ∀ fault, ¬r.IsUnreadable route fault)
    (hstatus : 400 ≤ (s.answer now r).answer.status) :
    ∃ refusal : Refusal, refusal.code ≠ "" ∧
      (s.answer now r).answer = (if r.method = .head then refusal.response.withoutBody
        else refusal.response).addHeaders sharingHeaders := by
  by_cases hget : .get ∈ route.methods
  · rw [s.answer_of_reading now hreaches.route_eq hreaches.method_mem hget] at hstatus ⊢
    have hread : 400 ≤ (s.read route).1.status := by
      by_cases hhead : r.method = .head
      · rwa [if_pos hhead] at hstatus
      · rwa [if_neg hhead] at hstatus
    obtain ⟨refusal, hcode, hrefusal⟩ := exists_refusal_of_read hget hread
    exact ⟨refusal, hcode, by rw [hrefusal]⟩
  · obtain rfl | rfl := Route.eq_of_get_not_mem hget
    · rcases s.answer_of_putsQuery now hreaches.putsQuery with
        ⟨fault, hbody, -⟩ | ⟨request, -, hanswer⟩
      · exact absurd (.filter hbody) (hreadable fault)
      · rw [hanswer, status_granted] at hstatus
        exact absurd hstatus (by decide)
    · have hpost := hreaches.postsObservation
      rcases hbody : bodyOf Observation.record.decode r with fault | o
      · exact absurd (.observations hbody) (hreadable fault)
      · rcases hvalid : o.validate with e | ⟨⟨⟩⟩
        · refine ⟨.ofError e, Refusal.code_ofError_ne e, ?_⟩
          rw [s.answer_of_invalid now hpost hbody hvalid, if_neg (by simp [hpost.method_eq])]
        · rw [s.answer_of_valid now hpost hbody hvalid, status_granted] at hstatus
          exact absurd hstatus (by decide)

/-! ### All failures -/

/-- **A failure is reported as a problem unless the body could not be read.** In every state,
a request for a route by one of its methods that is answered with a status of 400 or above is
told why as JSON, under a code, exactly when the body that the route takes, if it takes one,
can be read; a body that cannot be read is answered with the sentence that names the fault, as
plain text. A request by `HEAD` is answered with the same headers and no body. -/
theorem failure_reports_problem_iff (s : Service) (now : Instant) {r : Http.Request}
    {route : Route} (hreaches : r.Reaches route)
    (hstatus : 400 ≤ (s.answer now r).answer.status) :
    let response := (s.answer now r).answer
    (r.method ≠ .head → (response.ReportsProblem ↔ ∀ fault, ¬r.IsUnreadable route fault)) ∧
      (r.method = .head → response.headers.value? "content-type" = some "application/json" ∧
        response.body = .empty) ∧
      ∀ fault, r.IsUnreadable route fault →
        response = (Http.Response.ofText fault.status fault.message).addHeaders sharingHeaders := by
  intro response
  have hunreadable : ∀ fault, r.IsUnreadable route fault →
      response = fault.response.addHeaders sharingHeaders := fun fault hfault =>
    congrArg Turn.answer (s.answer_of_isUnreadable now hreaches hfault)
  have hrefused : (∀ fault, ¬r.IsUnreadable route fault) → _ := fun hreadable =>
    s.exists_refusal_of_failure now hreaches hreadable hstatus
  refine ⟨fun hhead => ⟨?_, ?_⟩, fun hhead => ?_, hunreadable⟩
  · intro hreports fault hfault
    rw [hunreadable fault hfault] at hreports
    exact not_reportsProblem_fault fault hreports
  · intro hreadable
    obtain ⟨refusal, hcode, hresponse⟩ := hrefused hreadable
    rw [if_neg hhead] at hresponse
    rw [show response = _ from hresponse]
    exact reportsProblem_refusal hcode
  -- no route that takes a body has the method
  · have hreadable : ∀ fault, ¬r.IsUnreadable route fault := by
      intro fault hfault
      have hmethod := hhead ▸ hreaches.method_mem
      cases hfault <;> simp [Route.methods] at hmethod
    obtain ⟨refusal, -, hresponse⟩ := hrefused hreadable
    rw [if_pos hhead] at hresponse
    rw [show response = _ from hresponse]
    exact ⟨contentType_refusal refusal, rfl⟩

/-- An observation that radios cannot make and a position behind the list are reported as
problems. -/
theorem problems_reported_of_no_beacons :
    let now : Instant := ⟨0, 0, by decide, by decide, by decide, by decide⟩
    let s := start {}
    let post : Http.Request := .json .post "/api/beacons/observations" "[\"aa:bb\",-60]"
    let getRow : Http.Request := ⟨.get, "/api/beacons/7", [], ""⟩
    (post.Reaches .observations ∧ (s.answer now post).answer.status = 400 ∧
        (s.answer now post).answer.ReportsProblem) ∧
      (getRow.Reaches (.row "7") ∧ (s.answer now getRow).answer.status = 404 ∧
        (s.answer now getRow).answer.ReportsProblem) := by
  intro now s post getRow
  have hpost : post.Reaches .observations := ⟨by decide +kernel, by decide +kernel⟩
  have hpostStatus : (s.answer now post).answer.status = 400 := by decide +kernel
  have hrow : getRow.Reaches (.row "7") := ⟨by decide +kernel, by decide +kernel⟩
  have hrowStatus : (s.answer now getRow).answer.status = 404 := by decide +kernel
  have hbody : ∀ fault, ¬post.IsUnreadable .observations fault := by
    intro fault hfault
    have hread : (bodyOf Observation.record.decode post).toBool = true := by decide +kernel
    cases hfault with
    | observations h =>
      rw [h] at hread
      cases hread
  refine ⟨⟨hpost, hpostStatus, ?_⟩, hrow, hrowStatus, ?_⟩
  · have hfailed : 400 ≤ (s.answer now post).answer.status := Nat.le_of_eq hpostStatus.symm
    exact ((failure_reports_problem_iff s now hpost hfailed).1 (by decide)).mpr hbody
  · have hfailed : 400 ≤ (s.answer now getRow).answer.status :=
      Nat.le_trans (by decide : 400 ≤ 404) (Nat.le_of_eq hrowStatus.symm)
    exact ((failure_reports_problem_iff s now hrow hfailed).1 (by decide)).mpr nofun

/-- An observation whose body is one brace is answered with a sentence, not with a problem. -/
theorem brace_not_reported_as_problem :
    let now : Instant := ⟨0, 0, by decide, by decide, by decide, by decide⟩
    let post : Http.Request := .json .post "/api/beacons/observations" "\x7B"
    let response := ((start {}).answer now post).answer
    post.Reaches .observations ∧ response.status = 400 ∧
      response.headers.value? "content-type" = some "text/plain; charset=utf-8" ∧
      ¬response.ReportsProblem := by
  intro now post response
  have htype : response.headers.value? "content-type" = some "text/plain; charset=utf-8" := by
    decide +kernel
  refine ⟨⟨by decide +kernel, by decide +kernel⟩, by decide +kernel, htype, ?_⟩
  intro h
  rw [h.contentType] at htype
  exact absurd htype (by decide)

end Service

end NearbyBeacons
