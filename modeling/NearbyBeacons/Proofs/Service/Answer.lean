import Mathlib.Data.List.Basic
import NearbyBeacons.Service.Handler
/-!
# What a request can do

Only two kinds of request reach the roster of a service: one that puts a query
(`answer_of_putsQuery`) and one that posts an observation (`answer_of_postsObservation`). Each
of them either is answered as failed and has no effect, or has a good body, an effect, and the
status 200. No other request has an effect (`answer_of_neither`); what a request reads depends
on its path alone (`answer_of_get`), and a row that is not given is refused under a code
(`rowAt_cases`).
-/

namespace NearbyBeacons

/-! ### Paths -/

namespace Route

/-- A path with the given segments is the text of the segments with slashes between them. -/
theorem segments_eq_iff {path : List Char} {names : List String} (hne : names ≠ [])
    (h : ∀ name ∈ names, '/' ∉ name.toList) :
    (path.splitOn '/').map String.ofList = names ↔
      path = ['/'].intercalate (names.map String.toList) := by
  constructor
  · rintro rfl
    rw [List.map_map, show String.toList ∘ String.ofList = id from
      funext fun _ => String.toList_ofList, List.map_id, List.intercalate_splitOn]
  · rintro rfl
    have hparts : ∀ part ∈ names.map String.toList, '/' ∉ part := by
      intro part hpart
      obtain ⟨name, hname, rfl⟩ := List.mem_map.mp hpart
      exact h name hname
    rw [List.splitOn_intercalate _ hparts (mt List.map_eq_nil_iff.mp hne), List.map_map,
      show String.ofList ∘ String.toList = id from funext fun _ => String.ofList_toList,
      List.map_id]

theorem ofSegments?_eq_filter_iff {segments : List String} :
    ofSegments? segments = some .filter ↔ segments = ["", "api", "beacons", "filter"] := by
  constructor
  · intro h
    unfold ofSegments? at h
    split at h <;> simp_all
  · rintro rfl
    rfl

theorem ofSegments?_eq_observations_iff {segments : List String} :
    ofSegments? segments = some .observations ↔
      segments = ["", "api", "beacons", "observations"] := by
  constructor
  · intro h
    unfold ofSegments? at h
    split at h <;> simp_all
  · rintro rfl
    rfl

theorem ofPath?_eq_filter_iff {path : List Char} :
    ofPath? path = some .filter ↔ path = "/api/beacons/filter".toList := by
  unfold ofPath?
  rw [ofSegments?_eq_filter_iff, segments_eq_iff (by simp) (by simp)]
  rfl

theorem ofPath?_eq_observations_iff {path : List Char} :
    ofPath? path = some .observations ↔ path = "/api/beacons/observations".toList := by
  unfold ofPath?
  rw [ofSegments?_eq_observations_iff, segments_eq_iff (by simp) (by simp)]
  rfl

/-- A path below that of the list leads where its last segment says. -/
theorem ofPath?_segment {segment : String} (h : '/' ∉ segment.toList) :
    ofPath? ("/api/beacons/" ++ segment).toList = ofSegments? ["", "api", "beacons", segment] := by
  unfold ofPath?
  congr 1
  rw [segments_eq_iff (by simp) (by simp [h])]
  simp

theorem ofSegments?_segment_cases (segment : String) :
    let route := ofSegments? ["", "api", "beacons", segment]
    route = none ∨ route = some .filter ∨ route = some .observations ∨
      route = some (.row segment) := by
  unfold ofSegments?
  split <;> simp_all [em]

end Route

/-! ### Requests that change something -/

/-- A request by a method for a path, whatever its headers and its body. -/
structure Http.Request.IsFor (r : Http.Request) (method : Http.Method) (path : String) : Prop where
  method_eq : r.method = method
  path_eq : Http.pathOf r.target.toList = path.toList

/-- A request that puts a query. -/
abbrev Http.Request.PutsQuery (r : Http.Request) : Prop := r.IsFor .put "/api/beacons/filter"

/-- A request that posts an observation. -/
abbrev Http.Request.PostsObservation (r : Http.Request) : Prop :=
  r.IsFor .post "/api/beacons/observations"

/-- A request with a JSON body. -/
def Http.Request.json (method : Http.Method) (target body : String) : Http.Request :=
  { method, target, headers := [("content-type", "application/json")], body }

theorem BodyFault.le_status (fault : BodyFault) : 400 ≤ fault.status := by
  cases fault <;> decide

namespace Refusal

theorem le_status (refusal : Refusal) : 400 ≤ refusal.response.status := by
  show 400 ≤ refusal.kind.status
  cases refusal.kind <;> decide

theorem ofError_invalidAddress (address : String) :
    ofError (.invalidAddress address) = ⟨.badRequest, "invalid_device_address",
      "Invalid device address: '" ++ address ++ "'. Expected format XX:XX:XX:XX:XX:XX."⟩ := by
  have hcode : Ascii.lower "INVALID_DEVICE_ADDRESS" = "invalid_device_address" := by
    decide +kernel
  rw [← hcode]
  rfl

theorem ofError_signalOutOfRange (signal : Signal) (value low high : Int) :
    ofError (.signalOutOfRange signal value low high) = ⟨.badRequest, "signal_out_of_range",
      "Invalid " ++ signal.name ++ ": " ++ Decimal.intText value ++ " dBm is outside " ++
        Decimal.intText low ++ "..=" ++ Decimal.intText high⟩ := by
  have hcode : Ascii.lower "SIGNAL_OUT_OF_RANGE" = "signal_out_of_range" := by decide +kernel
  rw [← hcode]
  rfl

theorem ofError_positionOutOfRange (position count : Nat) :
    ofError (.positionOutOfRange position count) = ⟨.notFound, "position_out_of_range",
      "Position " ++ Decimal.natText position ++ " is out of range for a list of " ++
        Decimal.natText count ++ " beacons"⟩ := by
  have hcode : Ascii.lower "POSITION_OUT_OF_RANGE" = "position_out_of_range" := by decide +kernel
  rw [← hcode]
  rfl

theorem code_ofError_ne (e : RequestError) : (ofError e).code ≠ "" := by
  cases e with
  | invalidAddress address => simp [ofError_invalidAddress]
  | signalOutOfRange signal value low high => simp [ofError_signalOutOfRange]
  | positionOutOfRange position count => simp [ofError_positionOutOfRange]

end Refusal

namespace Service

/-- The response that answers a request with JSON, and that all origins may read. -/
def granted (value : Json) : Http.Response :=
  (Http.Response.ofJson 200 value).addHeaders sharingHeaders

@[simp] theorem status_granted (value : Json) : (granted value).status = 200 := rfl

/-- The answer to an observation that has been taken in. -/
def observationAnswer (o : Observation) (recorded : Outcome Recorded) : ObservationAnswer :=
  ⟨DeviceAddress.normal o.address, recorded.answer.created, recorded.roster.count,
    recorded.answer.notification⟩

theorem postObservation_of_valid (s : Service) (now : Instant) {o : Observation}
    (h : o.validate = .ok ()) :
    s.postObservation now o =
      ⟨{ s with roster := (s.roster.record now o).roster },
        .ok (observationAnswer o (s.roster.record now o)), (s.roster.record now o).events⟩ := by
  unfold postObservation
  rw [h]
  rfl

theorem postObservation_of_invalid (s : Service) (now : Instant) {o : Observation}
    {e : RequestError} (h : o.validate = .error e) :
    s.postObservation now o = ⟨s, .error e, []⟩ := by
  unfold postObservation
  rw [h]

/-- A request that is not about its options is answered by its route. -/
theorem answer_of_route (s : Service) (now : Instant) {r : Http.Request} {route : Route}
    (hroute : Route.ofPath? (Http.pathOf r.target.toList) = some route)
    (hmethod : r.method ∈ route.methods) :
    s.answer now r =
      { s.respond now route r with
        answer := (s.respond now route r).answer.addHeaders sharingHeaders } := by
  have hoptions : r.method ≠ .options := by
    intro h
    rw [h] at hmethod
    cases route <;> simp [Route.methods] at hmethod
  unfold answer
  simp only [hroute, if_neg hoptions, if_pos hmethod]

theorem status_of_no_route (s : Service) (now : Instant) {r : Http.Request}
    (hroute : Route.ofPath? (Http.pathOf r.target.toList) = none) (hmethod : r.method ≠ .options) :
    (s.answer now r).answer.status = 404 := by
  unfold answer
  rw [hroute, if_neg hmethod]
  rfl

theorem status_of_other_method (s : Service) (now : Instant) {r : Http.Request} {route : Route}
    (hroute : Route.ofPath? (Http.pathOf r.target.toList) = some route)
    (hmethod : r.method ∉ route.methods) (hoptions : r.method ≠ .options) :
    (s.answer now r).answer.status = 405 := by
  unfold answer
  simp only [hroute, if_neg hoptions, if_neg hmethod]
  rfl

/-- What a request for a route that is read is answered. -/
theorem answer_of_reading (s : Service) (now : Instant) {r : Http.Request} {route : Route}
    (hroute : Route.ofPath? (Http.pathOf r.target.toList) = some route)
    (hmethod : r.method ∈ route.methods) (hget : .get ∈ route.methods) :
    (s.answer now r).answer =
      (if r.method = .head then (s.read route).1.withoutBody
        else (s.read route).1).addHeaders sharingHeaders := by
  rw [s.answer_of_route now hroute hmethod]
  cases route with
  | filter => simp [Route.methods] at hget
  | observations => simp [Route.methods] at hget
  | health => rfl
  | beacons => rfl
  | row segment => rfl
  | document => rfl

/-- A row is that of the visible beacon at the position which is named, or refused under a
code. -/
theorem rowAt_cases (s : Service) (segment : String) :
    (∃ position b, positionOf segment = .ok position ∧ s.roster.get? position = some b ∧
        s.rowAt segment = .ok (Row.render s.roster.labels b none)) ∨
      ∃ refusal : Refusal, refusal.code ≠ "" ∧ s.rowAt segment = .error refusal := by
  unfold rowAt
  cases hposition : positionOf segment with
  | error fault => exact .inr ⟨.invalidPath fault.message, by simp [Refusal.invalidPath], rfl⟩
  | ok position =>
    simp only [Roster.tryRenderRow]
    cases hget : s.roster.get? position with
    | none => exact .inr ⟨_, Refusal.code_ofError_ne _, rfl⟩
    | some b => exact .inl ⟨position, b, rfl, hget, rfl⟩

/-- What a request by `GET` reads. -/
theorem answer_of_get (s : Service) (now : Instant) {r : Http.Request} {route : Route}
    (hroute : Route.ofPath? (Http.pathOf r.target.toList) = some route) (hget : r.method = .get)
    (hmethod : .get ∈ route.methods) :
    (s.answer now r).answer = (s.read route).1.addHeaders sharingHeaders := by
  rw [s.answer_of_reading now hroute (hget ▸ hmethod) hmethod, if_neg (by simp [hget])]

section Rows

variable (s : Service) (now : Instant) {r : Http.Request} {segment : String}
  (hroute : Route.ofPath? (Http.pathOf r.target.toList) = some (.row segment))
  (hget : r.method = .get)

include hroute hget

theorem answer_of_rowAt_ok {row : Row} (h : s.rowAt segment = .ok row) :
    (s.answer now r).answer = granted row.toJson := by
  rw [s.answer_of_get now hroute hget (by simp [Route.methods])]
  simp only [read, h]
  rfl

theorem answer_of_rowAt_error {refusal : Refusal} (h : s.rowAt segment = .error refusal) :
    (s.answer now r).answer = refusal.response.addHeaders sharingHeaders := by
  rw [s.answer_of_get now hroute hget (by simp [Route.methods])]
  simp only [read, h]

end Rows

/-- A query that is put is either answered as failed, without an effect, or takes the place of
the one before. -/
theorem answer_of_putsQuery (s : Service) (now : Instant) {r : Http.Request} (h : r.PutsQuery) :
    (∃ fault, bodyOf FilterRequest.record.decode r = .error fault ∧
      s.answer now r = ⟨s, fault.response.addHeaders sharingHeaders, []⟩) ∨
    ∃ request, bodyOf FilterRequest.record.decode r = .ok request ∧
      s.answer now r = ⟨(s.putFilter request).service,
        granted (s.putFilter request).answer.toJson, (s.putFilter request).events⟩ := by
  have hroute := Route.ofPath?_eq_filter_iff.mpr h.path_eq
  have hmethod : r.method ∈ Route.filter.methods := List.mem_singleton.mpr h.method_eq
  rw [s.answer_of_route now hroute hmethod]
  simp only [respond, respondToFilter]
  cases bodyOf FilterRequest.record.decode r with
  | error fault => exact .inl ⟨fault, rfl, rfl⟩
  | ok request => exact .inr ⟨request, rfl, rfl⟩

section Observations

variable (s : Service) (now : Instant) {r : Http.Request} {o : Observation}

theorem answer_of_observation (h : r.PostsObservation) :
    s.answer now r =
      { s.respondToObservation now r with
        answer := (s.respondToObservation now r).answer.addHeaders sharingHeaders } :=
  s.answer_of_route now (Route.ofPath?_eq_observations_iff.mpr h.path_eq)
    (List.mem_singleton.mpr h.method_eq)

/-- An observation that cannot be read is answered with the fault of the body. -/
theorem answer_of_unreadable (h : r.PostsObservation) {fault : BodyFault}
    (hbody : bodyOf Observation.record.decode r = .error fault) :
    s.answer now r = ⟨s, fault.response.addHeaders sharingHeaders, []⟩ := by
  rw [s.answer_of_observation now h, respondToObservation, hbody]

/-- An observation that fails a check is answered with the error. -/
theorem answer_of_invalid (h : r.PostsObservation)
    (hbody : bodyOf Observation.record.decode r = .ok o) {e : RequestError}
    (hvalid : o.validate = .error e) :
    s.answer now r = ⟨s, (Refusal.ofError e).response.addHeaders sharingHeaders, []⟩ := by
  rw [s.answer_of_observation now h, respondToObservation, hbody]
  dsimp only
  rw [s.postObservation_of_invalid now hvalid]

/-- An observation that passes the checks is taken in. -/
theorem answer_of_valid (h : r.PostsObservation)
    (hbody : bodyOf Observation.record.decode r = .ok o) (hvalid : o.validate = .ok ()) :
    s.answer now r = ⟨{ s with roster := (s.roster.record now o).roster },
      granted (observationAnswer o (s.roster.record now o)).toJson,
      (s.roster.record now o).events⟩ := by
  rw [s.answer_of_observation now h, respondToObservation, hbody]
  dsimp only
  rw [s.postObservation_of_valid now hvalid]
  rfl

/-- An observation that is posted is either answered as failed, without an effect, or taken
in. -/
theorem answer_of_postsObservation (h : r.PostsObservation) :
    (∃ response events, s.answer now r = ⟨s, response, events⟩ ∧ 400 ≤ response.status) ∨
    ∃ o, bodyOf Observation.record.decode r = .ok o ∧ o.validate = .ok () ∧
      s.answer now r = ⟨{ s with roster := (s.roster.record now o).roster },
        granted (observationAnswer o (s.roster.record now o)).toJson,
        (s.roster.record now o).events⟩ := by
  rcases hbody : bodyOf Observation.record.decode r with fault | o
  · exact .inl ⟨_, _, s.answer_of_unreadable now h hbody, fault.le_status⟩
  · rcases hvalid : o.validate with e | ⟨⟨⟩⟩
    · exact .inl ⟨_, _, s.answer_of_invalid now h hbody hvalid, (Refusal.ofError e).le_status⟩
    · exact .inr ⟨o, rfl, hvalid, s.answer_of_valid now h hbody hvalid⟩

end Observations

/-- Whatever is no query that is put and no observation that is posted has no effect. -/
theorem answer_of_neither (s : Service) (now : Instant) {r : Http.Request} (hput : ¬r.PutsQuery)
    (hpost : ¬r.PostsObservation) : (s.answer now r).service = s := by
  unfold answer
  by_cases hoptions : r.method = .options
  · rw [if_pos hoptions]
  · rw [if_neg hoptions]
    cases hroute : Route.ofPath? (Http.pathOf r.target.toList) with
    | none => rfl
    | some route =>
      dsimp only
      split
      · next hmethod =>
        cases route with
        | filter =>
          exact absurd ⟨List.mem_singleton.mp hmethod, Route.ofPath?_eq_filter_iff.mp hroute⟩ hput
        | observations =>
          exact absurd
            ⟨List.mem_singleton.mp hmethod, Route.ofPath?_eq_observations_iff.mp hroute⟩ hpost
        | health => rfl
        | beacons => rfl
        | row segment => rfl
        | document => rfl
      · rfl

end Service

end NearbyBeacons
