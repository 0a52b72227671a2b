import NearbyBeacons.Error
import NearbyBeacons.IpAddress
import NearbyBeacons.Row
import NearbyBeacons.Settings.ArrayIndex
import NearbyBeacons.Text.Blank
/-!
# Settings

The settings of the service in four sections, their defaults, and the check that
reports every field with a value that the service cannot work with.
-/

namespace NearbyBeacons

/-- Where the service listens. -/
structure ServerSettings where
  host : IpAddress := .v4 0 0 0 0
  port : UInt16 := 3000
  deriving DecidableEq, Repr

/-- How long beacons stay listed. -/
structure TrackingSettings where
  /-- Beacons that have not been seen for longer than this are removed. -/
  staleTimeoutSecs : UInt64 := 10
  /-- How often stale beacons are looked for. -/
  expiryIntervalSecs : UInt64 := 1
  deriving DecidableEq, Repr

/-- What is logged. -/
structure LoggingSettings where
  /-- The filter used when the environment names none. -/
  level : String := "info"
  /-- Whether logs also go to a file. -/
  production : Bool := false
  deriving DecidableEq, Repr

/-- The settings of the service. -/
structure Settings where
  server : ServerSettings := {}
  tracking : TrackingSettings := {}
  display : Labels := {}
  logging : LoggingSettings := {}
  deriving DecidableEq, Repr

/-- The timeout as a span. A timeout beyond the largest span is the largest span. -/
def TrackingSettings.staleTimeout (t : TrackingSettings) : Span :=
  let asked := Span.ofSeconds t.staleTimeoutSecs.toNat 0
  if asked.le .largest then asked else .largest

/-- Why a field cannot keep its value. -/
inductive Complaint where
  | zero
  /-- The value is above the largest one allowed. -/
  | above (limit : Nat)
  | blank
  deriving DecidableEq, Repr

/-- The words of a complaint. -/
def Complaint.text : Complaint → String
  | zero => "must be non-zero"
  | above limit => "must be at most " ++ Decimal.natText limit
  | blank => "must not be blank"

/-- The fields that are checked. -/
inductive CheckedField where
  | port
  | staleTimeout
  | expiryInterval
  | distanceUnknown
  | txPowerUnknown
  | logLevel
  deriving DecidableEq, Repr

/-- The path of a field. -/
def CheckedField.path : CheckedField → String
  | port => "server.port"
  | staleTimeout => "tracking.stale_timeout_secs"
  | expiryInterval => "tracking.expiry_interval_secs"
  | distanceUnknown => "display.distance_unknown"
  | txPowerUnknown => "display.tx_power_unknown"
  | logLevel => "logging.level"

/-- A field with a value that it cannot keep. -/
structure InvalidField where
  field : CheckedField
  complaint : Complaint
  deriving DecidableEq, Repr

/-- The sentence that reports an invalid field. -/
def InvalidField.message (i : InvalidField) : String :=
  "invalid value for " ++ i.field.path ++ ": " ++ i.complaint.text

namespace Settings

/-- The longest stale timeout: one day. -/
def maxStaleTimeoutSecs : Nat := 86400

/-- The complaint about a number that must not be zero. -/
def zeroComplaint (n : Nat) : Option Complaint := if n = 0 then some .zero else none

/-- The complaint about a text that must show something. -/
def blankComplaint (s : String) : Option Complaint :=
  if Text.isBlankText s then some .blank else none

/-- The complaint about the stale timeout. -/
def timeoutComplaint (n : Nat) : Option Complaint :=
  if n = 0 then some .zero
  else if maxStaleTimeoutSecs < n then some (.above maxStaleTimeoutSecs)
  else none

/-- The complaint about a field of `s`, if there is one. -/
def complaint? (s : Settings) : CheckedField → Option Complaint
  | .port => zeroComplaint s.server.port.toNat
  | .staleTimeout => timeoutComplaint s.tracking.staleTimeoutSecs.toNat
  | .expiryInterval => zeroComplaint s.tracking.expiryIntervalSecs.toNat
  | .distanceUnknown => blankComplaint s.display.distanceUnknown
  | .txPowerUnknown => blankComplaint s.display.txPowerUnknown
  | .logLevel => blankComplaint s.logging.level

/-- The checked fields in the order of the settings. -/
def checkedFields : List CheckedField :=
  [.port, .staleTimeout, .expiryInterval, .distanceUnknown, .txPowerUnknown, .logLevel]

/-- The invalid fields of `s`, in the order of the settings. -/
def invalidFields (s : Settings) : List InvalidField :=
  checkedFields.filterMap fun f => (s.complaint? f).map (⟨f, ·⟩)

end Settings

/-- Why settings cannot be loaded or saved. -/
inductive SettingsError where
  /-- The file that was asked for does not exist. -/
  | notFound (path : String)
  /-- A directory or file could not be written. -/
  | notWritten (path : String)
  /-- The sources cannot be read, or hold values of the wrong type. -/
  | unreadable
  /-- A key of a source leads to a position that no array has. -/
  | misplaced (fault : IndexFault)
  /-- The settings cannot be written down. -/
  | unwritable
  /-- One field is invalid. -/
  | invalid (field : InvalidField)
  /-- Several fields are invalid. -/
  | severalInvalid (fields : List InvalidField)
  deriving DecidableEq, Repr

/-- The sentence that reports an error, where it has a fixed one. -/
def SettingsError.message : SettingsError → String
  | notFound path => "configuration file not found: " ++ path
  | notWritten path => "failed to write " ++ path
  | unreadable => "failed to parse configuration"
  | misplaced fault => fault.message
  | unwritable => "failed to serialize configuration"
  | invalid field => field.message
  | severalInvalid fields => Decimal.natText fields.length ++ " configuration values are invalid"

/-- Accepts settings without an invalid field, and otherwise reports all of them. -/
def Settings.validate (s : Settings) : Except SettingsError Unit :=
  match s.invalidFields with
  | [] => .ok ()
  | [field] => .error (.invalid field)
  | fields => .error (.severalInvalid fields)

end NearbyBeacons
