import NearbyBeacons.Event
import NearbyBeacons.Json.Decoder
import NearbyBeacons.Row
/-!
# Rows as JSON
-/

namespace NearbyBeacons

namespace Visibility

/-- The names of the two visibilities. -/
def names : List (String × Visibility) := [("visible", visible), ("gone", gone)]

/-- The JSON form of a visibility: its name. -/
def toJson : Visibility → Json
  | visible => .string "visible"
  | gone => .string "gone"

end Visibility

namespace Notification

/-- The names of the two notifications. -/
def names : List (String × Notification) := [("changed", changed), ("invalidated", invalidated)]

/-- The JSON form of a notification: its name. -/
def toJson : Notification → Json
  | changed => .string "changed"
  | invalidated => .string "invalidated"

end Notification

namespace Row

/-- The JSON form of a row. -/
def toJson (r : Row) : Json :=
  .object [("device_address", .string r.address), ("rssi", .string r.rssi),
    ("distance", .string r.distance), ("tx_power", .string r.txPower),
    ("frame_status", .string r.faults), ("frame_status_visibility", r.faultsVisibility.toJson)]

/-- A row. -/
def record : Json.Record Row :=
  Json.Record.pure Row.mk
    |>.required "device_address" Json.Decoder.string
    |>.required "rssi" Json.Decoder.string
    |>.required "distance" Json.Decoder.string
    |>.required "tx_power" Json.Decoder.string
    |>.required "frame_status" Json.Decoder.string
    |>.required "frame_status_visibility" (Json.Decoder.named Visibility.names)

end Row

end NearbyBeacons
