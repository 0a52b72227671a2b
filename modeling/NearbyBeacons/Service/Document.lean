import NearbyBeacons.OpenApi.Operation
import NearbyBeacons.Wire.Answer
import NearbyBeacons.Wire.Beacon
/-!
# The description of the service

The OpenAPI document that the service serves: what can be asked for, and the shape of all
bodies, with samples that are written by the service's own types.
-/

namespace NearbyBeacons.Service

open OpenApi (Property Schema Operation)

/-! ### Samples -/

/-- A row. -/
def sampleRow : Row :=
  { address := "AA:BB:CC:DD:EE:FF", rssi := "-70", distance := "2.82 meters", txPower := "-20" }

/-- The identifier of a sample beacon. -/
def sampleUid : String := "0123456789abcdef0123456789abcdef"

/-- A UID frame with a fault. -/
def sampleUidFrame : UidFrame :=
  { uid := some sampleUid, txPower := -20, reservedFault := some "Reserved bytes not zero" }

/-- An observation with no more than it needs. -/
def sampleObservation : Json :=
  .object [("device_address", .string sampleRow.address), ("rssi", .integer (-62)),
    ("uid", .object [("uid_value", .string sampleUid), ("tx_power", .integer (-20))])]

/-- A problem. -/
def sampleProblem : Problem :=
  { code := "invalid_device_address"
    message := "Invalid device address: 'AABB'. Expected format XX:XX:XX:XX:XX:XX." }

/-! ### Schemas -/

/-- The list of rows. -/
def rowListSchema : Schema :=
  .record "BeaconListResponse" "Rendered rows of the filtered beacon list."
    (RowList.toJson ⟨some "bb", 1, 3, [sampleRow]⟩)
    [{ name := "query", type := .optionalText, required := false
       description := "Active filter query, if any.", sample := some (.string "bb") },
     { name := "count", type := .count
       description := "Number of rows in the filtered list.", sample := some (.integer 1) },
     { name := "total", type := .count
       description := "Number of tracked beacons, ignoring the filter."
       sample := some (.integer 3) },
     { name := "rows", type := .listOf "BeaconRow"
       description := "One fully populated row per filtered beacon, in list order." }]

/-- A row. -/
def rowSchema : Schema :=
  .record "BeaconRow" "Fully populated display row for one beacon." (sampleRow.toJson)
    [{ name := "device_address", type := .text
       description := "Hardware address.", sample := some (.string sampleRow.address) },
     { name := "rssi", type := .text
       description := "Signal strength in dBm.", sample := some (.string sampleRow.rssi) },
     { name := "distance", type := .text
       description := "Estimated distance, or the unknown placeholder."
       sample := some (.string sampleRow.distance) },
     { name := "tx_power", type := .text
       description := "Calibrated transmit power, or the unknown placeholder."
       sample := some (.string sampleRow.txPower) },
     { name := "frame_status", type := .text
       description := "Bulleted frame errors. Empty when the region is gone." },
     { name := "frame_status_visibility", type := .named "Visibility"
       description := "Whether the frame status region is shown." }]

/-- A problem. -/
def problemSchema : Schema :=
  .record "ErrorResponse" "Standard JSON error response body." (sampleProblem.toJson)
    [{ name := "error", type := .text
       description := "Machine-readable error code.", sample := some (.string sampleProblem.code) },
     { name := "message", type := .text, description := "Human-readable error message." },
     { name := "details", type := .anything, required := false
       description := "Optional additional details." }]

/-- A request for another query. -/
def filterRequestSchema : Schema :=
  .record "FilterRequest" "Request body for changing the filter."
    (FilterRequest.toJson ⟨some "bb"⟩)
    [{ name := "query", type := .optionalText, required := false
       description := "Filter text. `null` or empty clears the filter. Not trimmed."
       sample := some (.string "bb") }]

/-- The answer to a request for another query. -/
def filterAnswerSchema : Schema :=
  .record "FilterResponse" "Result of applying a filter."
    (FilterAnswer.toJson ⟨some "bb", 2, .changed⟩)
    [{ name := "query", type := .optionalText, required := false
       description := "Active filter query after the change.", sample := some (.string "bb") },
     { name := "count", type := .count
       description := "Number of rows in the filtered list.", sample := some (.integer 2) },
     { name := "notification", type := .named "ListNotification"
       description := "`changed` to redraw rows, `invalidated` to show the empty state." }]

/-- The faults of an advertisement. -/
def faultsSchema : Schema :=
  .record "FrameErrors" "Frame level parse errors seen on an advertisement." none
    [{ name := "null_service_data", type := .optionalText, required := false
       description := "Advertisement carried no service data." },
     { name := "too_short_service_data", type := .optionalText, required := false
       description := "Service data shorter than the smallest frame." },
     { name := "invalid_frame_type", type := .optionalText, required := false
       description := "Unknown frame type byte."
       sample := some (.string "Invalid frame type 0x40") }]

/-- The health of the service. -/
def healthSchema : Schema :=
  .record "HealthResponse" "Health check response." (Health.toJson ⟨"ok", "0.1.0", 4⟩)
    [{ name := "status", type := .text
       description := "Service status.", sample := some (.string "ok") },
     { name := "version", type := .text
       description := "Service version from Cargo.toml.", sample := some (.string "0.1.0") },
     { name := "tracked_beacons", type := .count
       description := "Number of beacons currently tracked, ignoring the filter."
       sample := some (.integer 4) }]

/-- An observation. -/
def observationSchema : Schema :=
  .record "Observation" "One received advertisement, as reported by the scanner."
    sampleObservation
    [{ name := "device_address", type := .text
       description := "Hardware address of the advertiser."
       sample := some (.string sampleRow.address) },
     { name := "rssi", type := .integer
       description := "Received signal strength, in dBm.", sample := some (.integer (-62)) },
     { name := "seen_at", type := .optionalMoment, required := false
       description := "When the advertisement was received. Defaults to the time of ingest." },
     { name := "uid", type := .optionalNamed "UidObservation", required := false
       description := "Present when a UID frame was parsed." },
     { name := "frame_errors", type := .optionalNamed "FrameErrors", required := false
       description := "Present when frame parsing reported errors." }]

/-- The answer to an observation. -/
def observationAnswerSchema : Schema :=
  .record "ObservationResponse" "Result of ingesting an observation."
    (ObservationAnswer.toJson ⟨sampleRow.address, true, 3, .changed⟩)
    [{ name := "device_address", type := .text
       description := "Upper-cased address of the beacon that was updated or added."
       sample := some (.string sampleRow.address) },
     { name := "created", type := .flag
       description := "Whether the beacon was new.", sample := some (.bool true) },
     { name := "count", type := .count
       description := "Number of rows in the filtered list.", sample := some (.integer 3) },
     { name := "notification", type := .named "ListNotification"
       description := "Notification from re-applying the active filter." }]

/-- A UID frame. -/
def uidFrameSchema : Schema :=
  .record "UidObservation" "A successfully parsed UID frame." (sampleUidFrame.toJson)
    [{ name := "uid_value", type := .optionalText, required := false
       description := "Namespace + instance identifier, hex encoded."
       sample := some (.string sampleUid) },
     { name := "tx_power", type := .integer
       description := "Calibrated transmit power at 0 meters, in dBm."
       sample := some (.integer (-20)) },
     { name := "err_tx", type := .optionalText, required := false
       description := "Transmit power error, if any." },
     { name := "err_uid", type := .optionalText, required := false
       description := "UID value error, if any." },
     { name := "err_rfu", type := .optionalText, required := false
       description := "Reserved field error, if any." }]

/-- All schemas, by name. -/
def schemas : List Schema :=
  [rowListSchema, rowSchema, problemSchema, filterRequestSchema, filterAnswerSchema, faultsSchema,
    healthSchema,
    .choice "ListNotification" "Signal for the consumer after the filtered view was recomputed."
      (Notification.names.map (·.1)),
    observationSchema, observationAnswerSchema, uidFrameSchema,
    .choice "Visibility" "Whether a row region takes up space." (Visibility.names.map (·.1))]

/-! ### Operations -/

/-- Reading the list. -/
def listOperation : Operation where
  path := "/api/beacons"
  method := "get"
  id := "listBeacons"
  tag := "beacons"
  summary := "List filtered beacons"
  description := some <|
    "Returns one rendered row per beacon matching the active filter. " ++
    "Distance and transmit power are placeholders until a UID frame has been seen. " ++
    "The frame status region is `gone` when there are no frame errors."
  answers := [⟨200, "Rows rendered", "BeaconListResponse"⟩]

/-- Replacing the query. -/
def filterOperation : Operation where
  path := "/api/beacons/filter"
  method := "put"
  id := "applyFilter"
  tag := "beacons"
  summary := "Apply a text filter"
  description := some <|
    "Case-insensitive substring match on the device address with colons " ++
    "removed, or on the UID value. Returns `invalidated` when nothing matches."
  body := "FilterRequest"
  answers := [⟨200, "Filter applied", "FilterResponse"⟩]

/-- Taking in an observation. -/
def observationOperation : Operation where
  path := "/api/beacons/observations"
  method := "post"
  id := "recordObservation"
  tag := "beacons"
  summary := "Record a scanner observation"
  description := some <|
    "Adds the beacon if its address is new, otherwise updates its signal " ++
    "strength and last seen time. Addresses are matched case-insensitively and stored " ++
    "upper-cased. A `uid` object marks the UID frame as parsed; `frame_errors` replaces " ++
    "the frame status."
  body := "Observation"
  answers :=
    [⟨200, "Observation recorded", "ObservationResponse"⟩,
     ⟨400, "Malformed device address or signal out of range", "ErrorResponse"⟩]

/-- Reading one row. -/
def rowOperation : Operation where
  path := "/api/beacons/\x7Bposition\x7D"
  method := "get"
  id := "getBeacon"
  tag := "beacons"
  summary := "Render one row"
  parameters := [⟨"position", "Zero-based position in the filtered list"⟩]
  answers :=
    [⟨200, "Row rendered", "BeaconRow"⟩, ⟨400, "Position is not a number", "ErrorResponse"⟩,
     ⟨404, "Position past the end of the filtered list", "ErrorResponse"⟩]

/-- Asking after the health of the service. -/
def healthOperation : Operation where
  path := "/health"
  method := "get"
  id := "healthCheck"
  tag := "system"
  summary := "Check service health"
  description := "Returns service status, version and the number of tracked beacons."
  answers := [⟨200, "Service is healthy", "HealthResponse"⟩]

/-- All operations, by path. -/
def operations : List Operation :=
  [listOperation, filterOperation, observationOperation, rowOperation, healthOperation]

/-! ### The document -/

/-- The lines that say what the service is about. -/
def overviewLines : List String :=
  ["",
   "# beacon-locator API",
   "",
   "Lists nearby Bluetooth Low Energy beacons with signal strength, estimated",
   "distance and frame parsing errors.",
   "",
   "## Overview",
   "",
   "1. **Scanners** post each received advertisement to `recordObservation`.",
   "2. **Clients** set the filter text with `applyFilter` and read rendered rows",
   "   with `listBeacons` or `getBeacon`.",
   "",
   "Beacons that have not been observed within the configured timeout are removed",
   "automatically.",
   "",
   "## Rows",
   "",
   "Every row field is always populated. Distance and transmit power read as the",
   "configured \"unknown\" placeholder until a UID frame has been parsed. Distance",
   "uses the log-distance model `10^((txPower0m - rssi - 41) / 20)`.",
   ""]

/-- What the service is about. -/
def overview : String := "\n".intercalate overviewLines

/-- Title, version and terms. -/
def info : Json :=
  .object [("title", .string "beacon-locator API"), ("description", .string overview),
    ("contact", .object [("name", .string "beacon-locator contributors")]),
    ("license", .object [("name", .string "MIT"),
      ("url", .string "https://opensource.org/licenses/MIT")]),
    ("version", .string "0.1.0")]

/-- A name and what it stands for. -/
def tag (name description : String) : Json :=
  .object [("name", .string name), ("description", .string description)]

/-- The description of the service. -/
def document : Json :=
  .object [("openapi", .string "3.1.0"), ("info", info),
    ("servers", .array [.object [("url", .string "/"),
      ("description", .string "Local beacon-locator server")]]),
    ("paths", .object (operations.map (·.toMember))),
    ("components", .object [("schemas", .object (schemas.map fun s => (s.name, s.toJson)))]),
    ("tags", .array [tag "system" "Health checks",
      tag "beacons" "Filtered beacon list and scanner ingest"])]

end NearbyBeacons.Service
