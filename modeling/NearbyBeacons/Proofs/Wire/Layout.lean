import NearbyBeacons.Proofs.Json.Layout
import NearbyBeacons.Wire.Answer
import NearbyBeacons.Wire.Observation
import NearbyBeacons.Wire.Settings
/-!
# Layouts of what the service reads

Observations, stored beacons, rows, requests and settings are decoded to the same value whatever
the layout of their text (`decode_isLayoutFree`). A field that may be left out stands for `null`,
and a setting that is left out for its default.
-/

namespace NearbyBeacons

open Json Json.Record

/-! ### Frames -/

/-- The fields of a UID frame. -/
def UidFrame.fields : Fields :=
  [⟨"uid_value", .leaf, some .null⟩, ⟨"tx_power", .leaf, none⟩, ⟨"err_tx", .leaf, some .null⟩,
    ⟨"err_uid", .leaf, some .null⟩, ⟨"err_rfu", .leaf, some .null⟩]

/-- The fields of frame faults. -/
def FrameFaults.fields : Fields :=
  [⟨"null_service_data", .leaf, some .null⟩, ⟨"too_short_service_data", .leaf, some .null⟩,
    ⟨"invalid_frame_type", .leaf, some .null⟩]

/-- Whatever but the transmit power may be left out of a reported frame. -/
theorem UidFrame.fits_reportedRecord : Fits reportedRecord UidFrame.fields :=
  fits_pure ofFields
    |>.optionalField "uid_value" (by decide) (respects_leaf _)
    |>.required "tx_power" (by decide) (respects_leaf _)
    |>.trailingField "err_tx" (by decide) (respects_leaf _)
    |>.trailingField "err_uid" (by decide) (respects_leaf _)
    |>.trailingField "err_rfu" (by decide) (respects_leaf _)

/-- A stored frame has the same layouts as a reported one. -/
theorem UidFrame.fits_storedRecord : Fits storedRecord UidFrame.fields :=
  fits_pure ofFields
    |>.optionalField "uid_value" (by decide) (respects_leaf _)
    |>.required "tx_power" (by decide) (respects_leaf _)
    |>.optionalField "err_tx" (by decide) (respects_leaf _)
    |>.optionalField "err_uid" (by decide) (respects_leaf _)
    |>.optionalField "err_rfu" (by decide) (respects_leaf _)

theorem FrameFaults.fits_reportedRecord : Fits reportedRecord FrameFaults.fields :=
  fits_pure ofFields
    |>.trailingField "null_service_data" (by decide) (respects_leaf _)
    |>.trailingField "too_short_service_data" (by decide) (respects_leaf _)
    |>.trailingField "invalid_frame_type" (by decide) (respects_leaf _)

theorem FrameFaults.fits_storedRecord : Fits storedRecord FrameFaults.fields :=
  fits_pure ofFields
    |>.optionalField "null_service_data" (by decide) (respects_leaf _)
    |>.optionalField "too_short_service_data" (by decide) (respects_leaf _)
    |>.optionalField "invalid_frame_type" (by decide) (respects_leaf _)

/-! ### Observations, beacons and rows -/

/-- The fields of an observation. -/
def Observation.fields : Fields :=
  [⟨"device_address", .leaf, none⟩, ⟨"rssi", .leaf, none⟩, ⟨"seen_at", .leaf, some .null⟩,
    ⟨"uid", .record UidFrame.fields, some .null⟩,
    ⟨"frame_errors", .record FrameFaults.fields, some .null⟩]

/-- The fields of a stored beacon. -/
def Beacon.fields : Fields :=
  [⟨"device_address", .leaf, none⟩, ⟨"rssi", .leaf, none⟩, ⟨"last_seen", .leaf, none⟩,
    ⟨"has_uid_frame", .leaf, none⟩, ⟨"uid_status", .record UidFrame.fields, none⟩,
    ⟨"frame_status", .record FrameFaults.fields, none⟩]

/-- The fields of a row. -/
def Row.fields : Fields :=
  ["device_address", "rssi", "distance", "tx_power", "frame_status",
    "frame_status_visibility"].map fun name => ⟨name, .leaf, none⟩

/-- The frames of an observation are records inside it, and may be left out. -/
theorem Observation.fits_record : Fits record Observation.fields :=
  fits_pure Observation.mk
    |>.required "device_address" (by decide) (respects_leaf _)
    |>.required "rssi" (by decide) (respects_leaf _)
    |>.trailingField "seen_at" (by decide) (respects_leaf _)
    |>.trailingField "uid" (by decide) UidFrame.fits_reportedRecord.respects
    |>.trailingField "frame_errors" (by decide) FrameFaults.fits_reportedRecord.respects

/-- The frames of a stored beacon are records inside it, and have to be there. -/
theorem Beacon.fits_storedRecord : Fits storedRecord Beacon.fields :=
  fits_pure Beacon.mk
    |>.required "device_address" (by decide) (respects_leaf _)
    |>.required "rssi" (by decide) (respects_leaf _)
    |>.required "last_seen" (by decide) (respects_leaf _)
    |>.required "has_uid_frame" (by decide) (respects_leaf _)
    |>.required "uid_status" (by decide) UidFrame.fits_storedRecord.respects
    |>.required "frame_status" (by decide) FrameFaults.fits_storedRecord.respects

theorem Row.fits_record : Fits record Row.fields :=
  fits_pure Row.mk
    |>.required "device_address" (by decide) (respects_leaf _)
    |>.required "rssi" (by decide) (respects_leaf _)
    |>.required "distance" (by decide) (respects_leaf _)
    |>.required "tx_power" (by decide) (respects_leaf _)
    |>.required "frame_status" (by decide) (respects_leaf _)
    |>.required "frame_status_visibility" (by decide) (respects_leaf _)

/-! ### Requests and settings -/

/-- The field of a request. -/
def FilterRequest.fields : Fields := [⟨"query", .leaf, some .null⟩]

theorem FilterRequest.fits_record : Fits record FilterRequest.fields :=
  fits_pure FilterRequest.mk |>.trailingField "query" (by decide) (respects_leaf _)

/-- A whole number as it is written. -/
def wholeNumber (n : Nat) : Draft := .number ⟨false, Decimal.digits n, [], none⟩

/-- The fields of the section. -/
def ServerSettings.fields : Fields :=
  [⟨"host", .leaf, some (.string "0.0.0.0")⟩, ⟨"port", .leaf, some (wholeNumber 3000)⟩]

/-- The fields of the section. -/
def TrackingSettings.fields : Fields :=
  [⟨"stale_timeout_secs", .leaf, some (wholeNumber 10)⟩,
    ⟨"expiry_interval_secs", .leaf, some (wholeNumber 1)⟩]

/-- The fields of the section. -/
def Labels.fields : Fields :=
  [⟨"distance_unknown", .leaf, some (.string "Unknown")⟩,
    ⟨"tx_power_unknown", .leaf, some (.string "Unknown")⟩,
    ⟨"distance_unit", .leaf, some (.string "meters")⟩]

/-- The fields of the section. -/
def LoggingSettings.fields : Fields :=
  [⟨"level", .leaf, some (.string "info")⟩, ⟨"production", .leaf, some (.bool false)⟩]

/-- The sections. One that is left out is like one without fields. -/
def Settings.fields : Fields :=
  [⟨"server", .record ServerSettings.fields, some (.object [])⟩,
    ⟨"tracking", .record TrackingSettings.fields, some (.object [])⟩,
    ⟨"display", .record Labels.fields, some (.object [])⟩,
    ⟨"logging", .record LoggingSettings.fields, some (.object [])⟩]

/-- A setting that is written with its default is like one that is left out. -/
theorem ServerSettings.fits_record : Fits record ServerSettings.fields :=
  fits_pure ServerSettings.mk
    |>.defaultField "host" (by decide) (respects_leaf _) (by rfl)
    |>.defaultField "port" (by decide) (respects_leaf _) (by rfl)

theorem TrackingSettings.fits_record : Fits record TrackingSettings.fields :=
  fits_pure TrackingSettings.mk
    |>.defaultField "stale_timeout_secs" (by decide) (respects_leaf _) (by rfl)
    |>.defaultField "expiry_interval_secs" (by decide) (respects_leaf _) (by rfl)

theorem Labels.fits_record : Fits record Labels.fields :=
  fits_pure Labels.mk
    |>.defaultField "distance_unknown" (by decide) (respects_leaf _) rfl
    |>.defaultField "tx_power_unknown" (by decide) (respects_leaf _) rfl
    |>.defaultField "distance_unit" (by decide) (respects_leaf _) rfl

theorem LoggingSettings.fits_record : Fits record LoggingSettings.fields :=
  fits_pure LoggingSettings.mk
    |>.defaultField "level" (by decide) (respects_leaf _) rfl
    |>.defaultField "production" (by decide) (respects_leaf _) rfl

/-- A section without fields is one with all defaults. -/
theorem Settings.fits_record : Fits record Settings.fields :=
  fits_pure Settings.mk
    |>.defaultField "server" (by decide) ServerSettings.fits_record.respects (by rfl)
    |>.defaultField "tracking" (by decide) TrackingSettings.fits_record.respects (by rfl)
    |>.defaultField "display" (by decide) Labels.fits_record.respects (by rfl)
    |>.defaultField "logging" (by decide) LoggingSettings.fits_record.respects (by rfl)

/-- Whatever the layout of a text at any of its records, the same is decoded from it, and nothing
is decoded from a text that repeats a field. -/
theorem decode_isLayoutFree :
    IsLayoutFree Observation.record.decode (.record Observation.fields) ∧
      IsLayoutFree Beacon.storedRecord.decode (.record Beacon.fields) ∧
      IsLayoutFree Row.record.decode (.record Row.fields) ∧
      IsLayoutFree FilterRequest.record.decode (.record FilterRequest.fields) ∧
      IsLayoutFree Settings.record.decode (.record Settings.fields) :=
  ⟨Observation.fits_record.respects.isLayoutFree, Beacon.fits_storedRecord.respects.isLayoutFree,
    Row.fits_record.respects.isLayoutFree, FilterRequest.fits_record.respects.isLayoutFree,
    Settings.fits_record.respects.isLayoutFree⟩

end NearbyBeacons
