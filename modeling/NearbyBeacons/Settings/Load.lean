import NearbyBeacons.Decimal
import NearbyBeacons.Settings
import NearbyBeacons.Settings.FileTree
import NearbyBeacons.Settings.Layer
import NearbyBeacons.Toml.Document
import NearbyBeacons.Toml.Quoted
/-!
# Loading and saving settings

Settings are loaded from a TOML file and from the environment, which comes last and wins,
over the defaults. They are saved as a TOML file that reads back to the same settings.
-/

namespace NearbyBeacons

/-! ### From loose values -/

/-- A number below 65536. -/
def Loose.toUInt16? (v : Loose) : Option UInt16 :=
  (v.toNat?.filter (· < 65536)).map UInt16.ofNat

/-- A number of sixty-four bits. -/
def Loose.toUInt64? (v : Loose) : Option UInt64 := v.toNat?.map UInt64.ofNat

/-- An address, by its text. -/
def Loose.toAddress? (v : Loose) : Option IpAddress :=
  v.toText?.bind fun s => IpAddress.parse? s.toList

/-- The section of a loose value. -/
def ServerSettings.ofLoose? (v : Loose) : Option ServerSettings := do
  let default : ServerSettings := {}
  let host ← v.field? 0 "host" default.host Loose.toAddress?
  let port ← v.field? 1 "port" default.port Loose.toUInt16?
  some { host, port }

/-- The section of a loose value. -/
def TrackingSettings.ofLoose? (v : Loose) : Option TrackingSettings := do
  let default : TrackingSettings := {}
  let staleTimeoutSecs ← v.field? 0 "stale_timeout_secs" default.staleTimeoutSecs Loose.toUInt64?
  let expiryIntervalSecs ←
    v.field? 1 "expiry_interval_secs" default.expiryIntervalSecs Loose.toUInt64?
  some { staleTimeoutSecs, expiryIntervalSecs }

/-- The section of a loose value. -/
def Labels.ofLoose? (v : Loose) : Option Labels := do
  let default : Labels := {}
  let distanceUnknown ← v.field? 0 "distance_unknown" default.distanceUnknown Loose.toText?
  let txPowerUnknown ← v.field? 1 "tx_power_unknown" default.txPowerUnknown Loose.toText?
  let distanceUnit ← v.field? 2 "distance_unit" default.distanceUnit Loose.toText?
  some { distanceUnknown, txPowerUnknown, distanceUnit }

/-- The section of a loose value. -/
def LoggingSettings.ofLoose? (v : Loose) : Option LoggingSettings := do
  let default : LoggingSettings := {}
  let level ← v.field? 0 "level" default.level Loose.toText?
  let production ← v.field? 1 "production" default.production Loose.toBool?
  some { level, production }

namespace Settings

/-- The settings of a loose value. -/
def ofLoose? (v : Loose) : Option Settings := do
  let server ← v.field? 0 "server" {} ServerSettings.ofLoose?
  let tracking ← v.field? 1 "tracking" {} TrackingSettings.ofLoose?
  let display ← v.field? 2 "display" {} Labels.ofLoose?
  let logging ← v.field? 3 "logging" {} LoggingSettings.ofLoose?
  some { server, tracking, display, logging }

/-! ### Loading -/

/-- The settings of the members of a file and of the environment. -/
def ofSources (file : List (String × Loose)) (env : Environment) :
    Except SettingsError Settings := do
  let root ← (do ((← (Loose.table []).layer file).layer env.settings)).mapError .misplaced
  match ofLoose? root with
  | none => .error .unreadable
  | some s =>
    s.validate
    .ok s

/-- The settings of a text and of the environment. -/
def ofText (text : List Char) (env : Environment) : Except SettingsError Settings :=
  match (Toml.read? text).bind Loose.ofTable? with
  | some (.table members) => ofSources members env
  | _ => .error .unreadable

/-- Where settings are looked for when no file is named. -/
def defaultPath : String := "/etc/locator/config.toml"

/-- Loads settings from a file that has to be there. -/
def loadFrom (t : FileTree) (path : String) (env : Environment) :
    Except SettingsError Settings :=
  match t.find? path with
  | none => .error (.notFound path)
  | some .folder => .error .unreadable
  | some (.file text) => ofText text.toList env

/-- Loads settings from the file at the default path, if it is there. -/
def load (t : FileTree) (env : Environment) : Except SettingsError Settings :=
  match t.find? defaultPath with
  | none => ofSources [] env
  | some _ => loadFrom t defaultPath env

/-! ### Saving -/

/-- The header of a section. -/
def headerText (name : String) : List Char := '[' :: name.toList ++ [']', '\n']

/-- A line that gives a value to a key. -/
def lineText (name : String) (value : List Char) : List Char :=
  name.toList ++ [' ', '=', ' '] ++ value ++ ['\n']

/-- A line with a string. -/
def stringLine (name value : String) : List Char := lineText name (Toml.quoted value.toList)

/-- A line with a number. -/
def numberLine (name : String) (value : Nat) : List Char := lineText name (Decimal.digits value)

/-- The lines of the four sections. -/
def sectionTexts (s : Settings) : List (List Char) :=
  [headerText "server" ++ stringLine "host" (String.ofList s.server.host.text) ++
      numberLine "port" s.server.port.toNat,
    headerText "tracking" ++ numberLine "stale_timeout_secs" s.tracking.staleTimeoutSecs.toNat ++
      numberLine "expiry_interval_secs" s.tracking.expiryIntervalSecs.toNat,
    headerText "display" ++ stringLine "distance_unknown" s.display.distanceUnknown ++
      stringLine "tx_power_unknown" s.display.txPowerUnknown ++
      stringLine "distance_unit" s.display.distanceUnit,
    headerText "logging" ++ stringLine "level" s.logging.level ++
      lineText "production"
        (if s.logging.production then ['t', 'r', 'u', 'e'] else ['f', 'a', 'l', 's', 'e'])]

/-- The settings as TOML: the sections in order with a blank line between them. -/
def text (s : Settings) : List Char := ['\n'].intercalate s.sectionTexts

/-- Whether the settings can be written: whole numbers of TOML are signed words. -/
def isWritable (s : Settings) : Bool :=
  s.tracking.staleTimeoutSecs.toNat < Decimal.signedSize &&
    s.tracking.expiryIntervalSecs.toNat < Decimal.signedSize

/-- Saves settings, making the folders around the file. -/
def save (s : Settings) (t : FileTree) (path : String) : Except SettingsError FileTree := do
  match t.makeAround? path with
  | none => .error (.notWritten (FileTree.parent path))
  | some t =>
    -- the folders are made even when nothing can be written into them
    if s.isWritable then
      match t.write? path (String.ofList s.text) with
      | none => .error (.notWritten path)
      | some t => .ok t
    else .error .unwritable

end Settings

end NearbyBeacons
