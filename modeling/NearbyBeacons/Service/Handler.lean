import NearbyBeacons.Http.MediaType
import NearbyBeacons.Service.Document
import NearbyBeacons.Service.Refusal
import NearbyBeacons.Service.Route
import NearbyBeacons.Service.State
import NearbyBeacons.Wire.Observation
/-!
# Answering requests

Every request turns the service into a new one and has a response. Only a query that is
put and an observation that is posted change anything. All origins may read all
responses.
-/

namespace NearbyBeacons

/-! ### Bodies -/

/-- Why the body of a request cannot be used. -/
inductive BodyFault where
  /-- The body is not announced as JSON. -/
  | mediaType
  | tooLong
  /-- The body is no JSON text, or goes on behind it. -/
  | malformed
  /-- The body is JSON of the wrong shape. -/
  | misfit
  deriving DecidableEq, Repr

namespace BodyFault

/-- The HTTP status of a fault. -/
def status : BodyFault → Nat
  | mediaType => 415
  | tooLong => 413
  | malformed => 400
  | misfit => 422

/-- The sentence that reports a fault. -/
def message : BodyFault → String
  | mediaType => "Expected request with `Content-Type: application/json`"
  | tooLong => "Failed to buffer the request body: length limit exceeded"
  | malformed => "Failed to parse the request body as JSON"
  | misfit => "Failed to deserialize the JSON body into the target type"

/-- The response that reports a fault. -/
def response (f : BodyFault) : Http.Response := .ofText f.status f.message

/-- The fault of a body that cannot be decoded. -/
def ofFailure : Json.Failure → BodyFault
  | .syntactic => malformed
  | .data => misfit

end BodyFault

/-- The most bytes that a body may have. -/
def maxBodyBytes : Nat := 2097152

/-- The value of the body of a request: it is announced as JSON, not too long, and read by
`f`, in this order. -/
def bodyOf {α : Type} (f : Json.Decoder α) (r : Http.Request) : Except BodyFault α :=
  if !(r.headers.value? "content-type").any Http.announcesJson then .error .mediaType
  else if maxBodyBytes < r.body.utf8ByteSize then .error .tooLong
  else match f.decodeText r.body.toList with
    | .ok a => .ok a
    | .error e => .error (.ofFailure e)

/-! ### Resources -/

namespace Service

/-- The version of the service. -/
def version : String := "0.1.0"

/-- The health of the service. -/
def health (s : Service) : Health := ⟨"ok", version, s.roster.total⟩

/-- The visible list. -/
def rowList (s : Service) : RowList × List Event :=
  let (rows, events) := s.roster.renderAll
  (⟨s.roster.query, s.roster.count, s.roster.total, rows⟩, events)

/-- The row at the position that a segment names. -/
def rowAt (s : Service) (segment : String) : Except Refusal Row :=
  match positionOf segment with
  | .error fault => .error (.invalidPath fault.message)
  | .ok position => (s.roster.tryRenderRow position).mapError .ofError

/-- Replaces the query. -/
def putFilter (s : Service) (request : FilterRequest) : Turn FilterAnswer :=
  let o := s.roster.applyFilter request.query
  ⟨{ s with roster := o.roster }, ⟨o.roster.query, o.roster.count, o.answer⟩, o.events⟩

/-- Takes in an observation, if it is valid. -/
def postObservation (s : Service) (now : Instant) (o : Observation) :
    Turn (Except RequestError ObservationAnswer) :=
  match o.validate with
  | .error e => ⟨s, .error e, []⟩
  | .ok () =>
    let recorded := s.roster.record now o
    ⟨{ s with roster := recorded.roster },
      .ok ⟨DeviceAddress.normal o.address, recorded.answer.created, recorded.roster.count,
        recorded.answer.notification⟩,
      recorded.events⟩

/-! ### Responses -/

/-- The response to a reading request, and what was reported. -/
def read (s : Service) : Route → Http.Response × List Event
  | .health => (.ofJson 200 s.health.toJson, [])
  | .beacons =>
    let (list, events) := s.rowList
    (.ofJson 200 list.toJson, events)
  | .row segment =>
    match s.rowAt segment with
    | .ok row => (.ofJson 200 row.toJson, [])
    | .error refusal => (refusal.response, [])
  | .document => (.ofJson 200 document, [])
  | .filter | .observations => (.bare 405 [], [])

/-- The response to a query that is put. -/
def respondToFilter (s : Service) (r : Http.Request) : Turn Http.Response :=
  match bodyOf FilterRequest.record.decode r with
  | .error fault => ⟨s, fault.response, []⟩
  | .ok request =>
    let turn := s.putFilter request
    ⟨turn.service, .ofJson 200 turn.answer.toJson, turn.events⟩

/-- The response to an observation that is posted. -/
def respondToObservation (s : Service) (now : Instant) (r : Http.Request) : Turn Http.Response :=
  match bodyOf Observation.record.decode r with
  | .error fault => ⟨s, fault.response, []⟩
  | .ok o =>
    let turn := s.postObservation now o
    let response := match turn.answer with
      | .ok answer => Http.Response.ofJson 200 answer.toJson
      | .error e => (Refusal.ofError e).response
    ⟨turn.service, response, turn.events⟩

/-- The response to a request for a route by one of its methods. -/
def respond (s : Service) (now : Instant) (route : Route) (r : Http.Request) :
    Turn Http.Response :=
  match route with
  | .filter => s.respondToFilter r
  | .observations => s.respondToObservation now r
  | route =>
    let (response, events) := s.read route
    ⟨s, if r.method = .head then response.withoutBody else response, events⟩

/-- The headers by which all origins may read a response. -/
def sharingHeaders : Http.Headers :=
  [("access-control-allow-origin", "*"), ("access-control-expose-headers", "*")]

/-- The headers by which all origins may send any request. -/
def preflightHeaders : Http.Headers :=
  [("access-control-allow-origin", "*"), ("access-control-allow-methods", "*"),
    ("access-control-allow-headers", "*")]

/-- The answer to a request. A request for its options is answered on every path. -/
def answer (s : Service) (now : Instant) (r : Http.Request) : Turn Http.Response :=
  let route := Route.ofPath? (Http.pathOf r.target.toList)
  let allow := (route.map Route.allow).getD []
  -- the answer about sharing goes before everything else
  if r.method = .options then ⟨s, .bare 200 (preflightHeaders ++ allow), []⟩
  else
    let turn : Turn Http.Response := match route with
      | none => ⟨s, .bare 404 [], []⟩
      | some route =>
        if r.method ∈ route.methods then s.respond now route r else ⟨s, .bare 405 allow, []⟩
    { turn with answer := turn.answer.addHeaders sharingHeaders }

end Service

end NearbyBeacons
