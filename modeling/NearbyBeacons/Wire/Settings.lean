import NearbyBeacons.Json.Decoder
import NearbyBeacons.Settings
/-!
# Settings as JSON

Every section and every field may be left out; the default takes its place.
-/

namespace NearbyBeacons

/-- The JSON form of an address: its canonical text. -/
def IpAddress.toJson (a : IpAddress) : Json := .string (String.ofList a.text)

namespace ServerSettings

/-- The JSON form of the section. -/
def toJson (s : ServerSettings) : Json :=
  .object [("host", s.host.toJson), ("port", .integer s.port.toNat)]

/-- The section. -/
def record : Json.Record ServerSettings :=
  let default : ServerSettings := {}
  Json.Record.pure ServerSettings.mk
    |>.defaultField "host" (Json.Decoder.parsed IpAddress.parse?) default.host
    |>.defaultField "port" Json.Decoder.uint16 default.port

end ServerSettings

namespace TrackingSettings

/-- The JSON form of the section. -/
def toJson (t : TrackingSettings) : Json :=
  .object [("stale_timeout_secs", .integer t.staleTimeoutSecs.toNat),
    ("expiry_interval_secs", .integer t.expiryIntervalSecs.toNat)]

/-- The section. -/
def record : Json.Record TrackingSettings :=
  let default : TrackingSettings := {}
  Json.Record.pure TrackingSettings.mk
    |>.defaultField "stale_timeout_secs" Json.Decoder.uint64 default.staleTimeoutSecs
    |>.defaultField "expiry_interval_secs" Json.Decoder.uint64 default.expiryIntervalSecs

end TrackingSettings

namespace Labels

/-- The JSON form of the section. -/
def toJson (l : Labels) : Json :=
  .object [("distance_unknown", .string l.distanceUnknown),
    ("tx_power_unknown", .string l.txPowerUnknown), ("distance_unit", .string l.distanceUnit)]

/-- The section. -/
def record : Json.Record Labels :=
  let default : Labels := {}
  Json.Record.pure Labels.mk
    |>.defaultField "distance_unknown" Json.Decoder.string default.distanceUnknown
    |>.defaultField "tx_power_unknown" Json.Decoder.string default.txPowerUnknown
    |>.defaultField "distance_unit" Json.Decoder.string default.distanceUnit

end Labels

namespace LoggingSettings

/-- The JSON form of the section. -/
def toJson (l : LoggingSettings) : Json :=
  .object [("level", .string l.level), ("production", .bool l.production)]

/-- The section. -/
def record : Json.Record LoggingSettings :=
  let default : LoggingSettings := {}
  Json.Record.pure LoggingSettings.mk
    |>.defaultField "level" Json.Decoder.string default.level
    |>.defaultField "production" Json.Decoder.bool default.production

end LoggingSettings

namespace Settings

/-- The JSON form of settings. -/
def toJson (s : Settings) : Json :=
  .object [("server", s.server.toJson), ("tracking", s.tracking.toJson),
    ("display", s.display.toJson), ("logging", s.logging.toJson)]

/-- The settings. -/
def record : Json.Record Settings :=
  Json.Record.pure Settings.mk
    |>.defaultField "server" ServerSettings.record.decode {}
    |>.defaultField "tracking" TrackingSettings.record.decode {}
    |>.defaultField "display" Labels.record.decode {}
    |>.defaultField "logging" LoggingSettings.record.decode {}

end Settings

end NearbyBeacons
