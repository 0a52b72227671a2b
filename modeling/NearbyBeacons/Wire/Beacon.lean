import NearbyBeacons.Beacon
import NearbyBeacons.Json.Decoder
/-!
# Beacons as JSON

The JSON form in which beacons are kept. The optional texts of a frame may be left out
of an object; every other member has to be there.
-/

namespace NearbyBeacons

namespace UidFrame

/-- The JSON form of a UID frame. -/
def toJson (f : UidFrame) : Json :=
  .object [("uid_value", .optional .string f.uid), ("tx_power", .integer f.txPower.toInt),
    ("err_tx", .optional .string f.txPowerFault), ("err_uid", .optional .string f.uidFault),
    ("err_rfu", .optional .string f.reservedFault)]

/-- The UID frame of its five fields. -/
def ofFields (uid : Option String) (txPower : Int16)
    (txPowerFault uidFault reservedFault : Option String) : UidFrame :=
  { uid, txPower, txPowerFault, uidFault, reservedFault }

/-- The UID frame of a stored beacon. -/
def storedRecord : Json.Record UidFrame :=
  Json.Record.pure ofFields
    |>.optionalField "uid_value" Json.Decoder.string
    |>.required "tx_power" Json.Decoder.int16
    |>.optionalField "err_tx" Json.Decoder.string
    |>.optionalField "err_uid" Json.Decoder.string
    |>.optionalField "err_rfu" Json.Decoder.string

end UidFrame

namespace FrameFaults

/-- The JSON form of frame faults. -/
def toJson (f : FrameFaults) : Json :=
  .object [("null_service_data", .optional .string f.noServiceData),
    ("too_short_service_data", .optional .string f.shortServiceData),
    ("invalid_frame_type", .optional .string f.unknownFrameType)]

/-- The frame faults of their three fields. -/
def ofFields (noServiceData shortServiceData unknownFrameType : Option String) : FrameFaults :=
  { noServiceData, shortServiceData, unknownFrameType }

/-- The frame faults of a stored beacon. -/
def storedRecord : Json.Record FrameFaults :=
  Json.Record.pure ofFields
    |>.optionalField "null_service_data" Json.Decoder.string
    |>.optionalField "too_short_service_data" Json.Decoder.string
    |>.optionalField "invalid_frame_type" Json.Decoder.string

end FrameFaults

/-- The JSON form of an instant. -/
def Instant.toJson (t : Instant) : Json := .string (String.ofList (Timestamp.ofInstant t))

namespace Beacon

/-- The JSON form of a beacon. -/
def toJson (b : Beacon) : Json :=
  .object [("device_address", .string b.address), ("rssi", .integer b.rssi.toInt),
    ("last_seen", b.lastSeen.toJson), ("has_uid_frame", .bool b.hasUidFrame),
    ("uid_status", b.uidFrame.toJson), ("frame_status", b.faults.toJson)]

/-- A stored beacon. -/
def storedRecord : Json.Record Beacon :=
  Json.Record.pure Beacon.mk
    |>.required "device_address" Json.Decoder.string
    |>.required "rssi" Json.Decoder.int16
    |>.required "last_seen" Json.Decoder.instant
    |>.required "has_uid_frame" Json.Decoder.bool
    |>.required "uid_status" UidFrame.storedRecord.decode
    |>.required "frame_status" FrameFaults.storedRecord.decode

end Beacon

end NearbyBeacons
