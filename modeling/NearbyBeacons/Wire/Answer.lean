import NearbyBeacons.Wire.Row
/-!
# Requests and answers of the service

The bodies that the service takes and gives beyond rows and observations, and their JSON
forms.
-/

namespace NearbyBeacons

/-- A request for another query. None, and the empty text, ask for the whole list. -/
structure FilterRequest where
  query : Option String
  deriving DecidableEq, Repr

/-- The request in its JSON form. -/
def FilterRequest.record : Json.Record FilterRequest :=
  Json.Record.pure FilterRequest.mk |>.trailingField "query" Json.Decoder.string

/-- The JSON form of a request. -/
def FilterRequest.toJson (r : FilterRequest) : Json :=
  .object [("query", .optional .string r.query)]

/-- The answer to a request for another query. -/
structure FilterAnswer where
  query : Option String
  count : Nat
  notification : Notification
  deriving DecidableEq, Repr

namespace FilterAnswer

/-- The JSON form of the answer. -/
def toJson (a : FilterAnswer) : Json :=
  .object [("query", .optional .string a.query), ("count", .integer a.count),
    ("notification", a.notification.toJson)]

/-- The answer in its JSON form. -/
def record : Json.Record FilterAnswer :=
  Json.Record.pure FilterAnswer.mk
    |>.optionalField "query" Json.Decoder.string
    |>.required "count" Json.Decoder.count
    |>.required "notification" (Json.Decoder.named Notification.names)

end FilterAnswer

/-- The answer to an observation. -/
structure ObservationAnswer where
  /-- The address under which the beacon is kept. -/
  address : String
  created : Bool
  count : Nat
  notification : Notification
  deriving DecidableEq, Repr

namespace ObservationAnswer

/-- The JSON form of the answer. -/
def toJson (a : ObservationAnswer) : Json :=
  .object [("device_address", .string a.address), ("created", .bool a.created),
    ("count", .integer a.count), ("notification", a.notification.toJson)]

/-- The answer in its JSON form. -/
def record : Json.Record ObservationAnswer :=
  Json.Record.pure ObservationAnswer.mk
    |>.required "device_address" Json.Decoder.string
    |>.required "created" Json.Decoder.bool
    |>.required "count" Json.Decoder.count
    |>.required "notification" (Json.Decoder.named Notification.names)

end ObservationAnswer

/-- The visible list. -/
structure RowList where
  query : Option String
  count : Nat
  /-- The number of tracked beacons, whatever the query. -/
  total : Nat
  rows : List Row
  deriving DecidableEq, Repr

namespace RowList

/-- The JSON form of the list. -/
def toJson (l : RowList) : Json :=
  .object [("query", .optional .string l.query), ("count", .integer l.count),
    ("total", .integer l.total), ("rows", .array (l.rows.map Row.toJson))]

/-- The list in its JSON form. -/
def record : Json.Record RowList :=
  Json.Record.pure RowList.mk
    |>.optionalField "query" Json.Decoder.string
    |>.required "count" Json.Decoder.count
    |>.required "total" Json.Decoder.count
    |>.required "rows" (Json.Decoder.list Row.record.decode)

end RowList

/-- Whether the service is well. -/
structure Health where
  status : String
  version : String
  trackedBeacons : Nat
  deriving DecidableEq, Repr

namespace Health

/-- The JSON form of the report. -/
def toJson (h : Health) : Json :=
  .object [("status", .string h.status), ("version", .string h.version),
    ("tracked_beacons", .integer h.trackedBeacons)]

/-- The report in its JSON form. -/
def record : Json.Record Health :=
  Json.Record.pure Health.mk
    |>.required "status" Json.Decoder.string
    |>.required "version" Json.Decoder.string
    |>.required "tracked_beacons" Json.Decoder.count

end Health

/-- The report of a refused request. -/
structure Problem where
  /-- The machine-readable name of the cause. -/
  code : String
  message : String
  details : Option Json := none

namespace Problem

/-- The JSON form of the report. -/
def toJson (p : Problem) : Json :=
  .object [("error", .string p.code), ("message", .string p.message),
    ("details", .optional id p.details)]

/-- How deep the details of a problem may nest. -/
def detailDepth : Nat := 126

/-- The report in its JSON form. -/
def record : Json.Record Problem :=
  Json.Record.pure Problem.mk
    |>.required "error" Json.Decoder.string
    |>.required "message" Json.Decoder.string
    |>.optionalField "details" (Json.Decoder.value detailDepth)

end Problem

end NearbyBeacons
