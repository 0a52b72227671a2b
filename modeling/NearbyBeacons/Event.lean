import NearbyBeacons.Decimal
import NearbyBeacons.Text.Quoted
/-!
# Events

What the program reports about its own work, as data: each event has a level, a
message and named texts.
-/

namespace NearbyBeacons

/-- What became of the visible list after a change. -/
inductive Notification where
  /-- There are rows to draw. -/
  | changed
  /-- There is nothing to show. -/
  | invalidated
  deriving DecidableEq, Repr

namespace Notification

/-- The notification of a visible list of `count` rows. -/
def ofCount (count : Nat) : Notification := if count = 0 then invalidated else changed

/-- The name of a notification in the log. -/
def logName : Notification → String
  | changed => "Changed"
  | invalidated => "Invalidated"

end Notification

/-- How much an event matters. -/
inductive Level where
  | trace
  | debug
  | info
  deriving DecidableEq, Repr

/-- The name of a level. -/
def Level.name : Level → String
  | trace => "TRACE"
  | debug => "DEBUG"
  | info => "INFO"

/-- One thing that happened. -/
inductive Event where
  | filterApplied (query : Option String) (count total : Nat) (notification : Notification)
  | newBeacon (address : String) (rssi : Int16)
  | beaconExpired (address : String)
  | renderingRow (position : Nat)
  | staleExpired (removed remaining : Nat)
  /-- The periodic sweep has started, with its period in seconds. -/
  | expiryStarted (period : Nat)
  | expiryStopped
  deriving DecidableEq, Repr

namespace Event

/-- The level of an event. -/
def level : Event → Level
  | renderingRow _ => .trace
  | filterApplied .. | staleExpired .. => .debug
  | newBeacon .. | beaconExpired _ | expiryStarted _ | expiryStopped => .info

/-- The message of an event. -/
def message : Event → String
  | filterApplied .. => "filter applied"
  | newBeacon .. => "new beacon"
  | beaconExpired _ => "beacon expired"
  | renderingRow _ => "rendering row"
  | staleExpired .. => "expired stale beacons"
  | expiryStarted _ => "beacon expiry started"
  | expiryStopped => "beacon expiry stopped"

/-- A query in the log: `None`, or the quoted text in `Some`. -/
def queryText : Option String → String
  | none => "None"
  | some query => "Some(" ++ Text.quoted query ++ ")"

/-- The named texts of an event. -/
def fields : Event → List (String × String)
  | filterApplied query count total notification =>
    [("query", queryText query), ("count", Decimal.natText count),
     ("total", Decimal.natText total), ("notification", notification.logName)]
  | newBeacon address rssi => [("device_address", address), ("rssi", Decimal.intText rssi.toInt)]
  | beaconExpired address => [("device_address", address)]
  | renderingRow position => [("position", Decimal.natText position)]
  | staleExpired removed remaining =>
    [("removed", Decimal.natText removed), ("remaining", Decimal.natText remaining)]
  | expiryStarted period => [("period", Decimal.natText period ++ "s")]
  | expiryStopped => []

end Event

end NearbyBeacons
