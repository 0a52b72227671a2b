import NearbyBeacons.Observation
import NearbyBeacons.Wire.Beacon
/-!
# Observations as JSON

The JSON form in which scanners report. Whatever a scanner has nothing to say about may
be left out, at the end of an array as well.
-/

namespace NearbyBeacons

/-- The UID frame of an observation. -/
def UidFrame.reportedRecord : Json.Record UidFrame :=
  Json.Record.pure ofFields
    |>.optionalField "uid_value" Json.Decoder.string
    |>.required "tx_power" Json.Decoder.int16
    |>.trailingField "err_tx" Json.Decoder.string
    |>.trailingField "err_uid" Json.Decoder.string
    |>.trailingField "err_rfu" Json.Decoder.string

/-- The frame faults of an observation. -/
def FrameFaults.reportedRecord : Json.Record FrameFaults :=
  Json.Record.pure ofFields
    |>.trailingField "null_service_data" Json.Decoder.string
    |>.trailingField "too_short_service_data" Json.Decoder.string
    |>.trailingField "invalid_frame_type" Json.Decoder.string

namespace Observation

/-- The JSON form of an observation. -/
def toJson (o : Observation) : Json :=
  .object [("device_address", .string o.address), ("rssi", .integer o.rssi.toInt),
    ("seen_at", .optional Instant.toJson o.seenAt), ("uid", .optional UidFrame.toJson o.uidFrame),
    ("frame_errors", .optional FrameFaults.toJson o.faults)]

/-- An observation. -/
def record : Json.Record Observation :=
  Json.Record.pure Observation.mk
    |>.required "device_address" Json.Decoder.string
    |>.required "rssi" Json.Decoder.int16
    |>.trailingField "seen_at" Json.Decoder.instant
    |>.trailingField "uid" UidFrame.reportedRecord.decode
    |>.trailingField "frame_errors" FrameFaults.reportedRecord.decode

end Observation

end NearbyBeacons
