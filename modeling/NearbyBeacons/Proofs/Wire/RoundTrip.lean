import NearbyBeacons.Proofs.IpAddress
import NearbyBeacons.Proofs.Json.Encoding
import NearbyBeacons.Proofs.Wire.Layout
/-!
# What is written is read back

Everything the service writes and reads as JSON is decoded from its own text
(`decode_roundTrips`).
-/

namespace NearbyBeacons

open Json Json.Record

/-! ### Observations and beacons -/

/-- An instant is read back from its timestamp, also one in a leap second. -/
theorem Instant.recovers_toJson (t : Instant) : Recovers Decoder.instant t.toJson t :=
  recovers_parsed (Timestamp.instant?_ofInstant t)

/-- A frame is written in one form, which is read back both in a report and in a stored beacon. -/
theorem UidFrame.recovers_reported (u : UidFrame) : Recovers reportedRecord.decode u.toJson u := by
  apply Makes.recovers fits_reportedRecord.lawful ?_ rfl
  exact makes_pure ofFields
    |>.optionalField "uid_value" (recovers_optionalString u.uid)
    |>.required "tx_power" (recovers_int16 u.txPower)
    |>.trailingField "err_tx" (recovers_optionalString u.txPowerFault)
    |>.trailingField "err_uid" (recovers_optionalString u.uidFault)
    |>.trailingField "err_rfu" (recovers_optionalString u.reservedFault)

theorem UidFrame.recovers_stored (u : UidFrame) : Recovers storedRecord.decode u.toJson u := by
  apply Makes.recovers fits_storedRecord.lawful ?_ rfl
  exact makes_pure ofFields
    |>.optionalField "uid_value" (recovers_optionalString u.uid)
    |>.required "tx_power" (recovers_int16 u.txPower)
    |>.optionalField "err_tx" (recovers_optionalString u.txPowerFault)
    |>.optionalField "err_uid" (recovers_optionalString u.uidFault)
    |>.optionalField "err_rfu" (recovers_optionalString u.reservedFault)

theorem FrameFaults.recovers_reported (f : FrameFaults) :
    Recovers reportedRecord.decode f.toJson f := by
  apply Makes.recovers fits_reportedRecord.lawful ?_ rfl
  exact makes_pure ofFields
    |>.trailingField "null_service_data" (recovers_optionalString f.noServiceData)
    |>.trailingField "too_short_service_data" (recovers_optionalString f.shortServiceData)
    |>.trailingField "invalid_frame_type" (recovers_optionalString f.unknownFrameType)

theorem FrameFaults.recovers_stored (f : FrameFaults) :
    Recovers storedRecord.decode f.toJson f := by
  apply Makes.recovers fits_storedRecord.lawful ?_ rfl
  exact makes_pure ofFields
    |>.optionalField "null_service_data" (recovers_optionalString f.noServiceData)
    |>.optionalField "too_short_service_data" (recovers_optionalString f.shortServiceData)
    |>.optionalField "invalid_frame_type" (recovers_optionalString f.unknownFrameType)

/-- A part of an observation is written as `null` only where it is missing. -/
theorem Observation.recovers_toJson (o : Observation) : Recovers record.decode o.toJson o := by
  have hseen := recovers_optional Instant.recovers_toJson
    (fun t => by rw [Instant.toJson, draft]; nofun) o.seenAt
  have huid := recovers_optional UidFrame.recovers_reported
    (fun u => by rw [UidFrame.toJson, draft]; nofun) o.uidFrame
  have hfaults := recovers_optional FrameFaults.recovers_reported
    (fun f => by rw [FrameFaults.toJson, draft]; nofun) o.faults
  apply Makes.recovers fits_record.lawful ?_ rfl
  exact makes_pure Observation.mk
    |>.required "device_address" (recovers_string o.address)
    |>.required "rssi" (recovers_int16 o.rssi)
    |>.trailingField "seen_at" hseen
    |>.trailingField "uid" huid
    |>.trailingField "frame_errors" hfaults

/-- A stored beacon is written with both of its frames. -/
theorem Beacon.recovers_toJson (b : Beacon) : Recovers storedRecord.decode b.toJson b := by
  apply Makes.recovers fits_storedRecord.lawful ?_ rfl
  exact makes_pure Beacon.mk
    |>.required "device_address" (recovers_string b.address)
    |>.required "rssi" (recovers_int16 b.rssi)
    |>.required "last_seen" b.lastSeen.recovers_toJson
    |>.required "has_uid_frame" (recovers_bool b.hasUidFrame)
    |>.required "uid_status" b.uidFrame.recovers_stored
    |>.required "frame_status" b.faults.recovers_stored

/-! ### Rows -/

/-- A choice is read back from its name. -/
theorem Visibility.recovers_toJson (v : Visibility) :
    Recovers (Decoder.named names) v.toJson v := by
  cases v <;> rw [Recovers, toJson, draft] <;> rfl

theorem Notification.recovers_toJson (n : Notification) :
    Recovers (Decoder.named names) n.toJson n := by
  cases n <;> rw [Recovers, toJson, draft] <;> rfl

/-- A row is a record of texts, but for the visibility of the last of them. -/
theorem Row.recovers_toJson (r : Row) : Recovers record.decode r.toJson r := by
  apply Makes.recovers fits_record.lawful ?_ rfl
  exact makes_pure Row.mk
    |>.required "device_address" (recovers_string r.address)
    |>.required "rssi" (recovers_string r.rssi)
    |>.required "distance" (recovers_string r.distance)
    |>.required "tx_power" (recovers_string r.txPower)
    |>.required "frame_status" (recovers_string r.faults)
    |>.required "frame_status_visibility" r.faultsVisibility.recovers_toJson

/-! ### Settings -/

/-- The host is read back from the canonical text of its address. -/
theorem ServerSettings.recovers_toJson (s : ServerSettings) :
    Recovers record.decode s.toJson s := by
  apply Makes.recovers fits_record.lawful ?_ rfl
  exact makes_pure ServerSettings.mk
    |>.defaultField "host" (recovers_parsed (IpAddress.parse?_text s.host)) _
    |>.defaultField "port" (recovers_uint16 s.port) _

/-- Any words are read back, also those that no check accepts. -/
theorem TrackingSettings.recovers_toJson (t : TrackingSettings) :
    Recovers record.decode t.toJson t := by
  apply Makes.recovers fits_record.lawful ?_ rfl
  exact makes_pure TrackingSettings.mk
    |>.defaultField "stale_timeout_secs" (recovers_uint64 t.staleTimeoutSecs) _
    |>.defaultField "expiry_interval_secs" (recovers_uint64 t.expiryIntervalSecs) _

theorem Labels.recovers_toJson (l : Labels) : Recovers record.decode l.toJson l := by
  apply Makes.recovers fits_record.lawful ?_ rfl
  exact makes_pure Labels.mk
    |>.defaultField "distance_unknown" (recovers_string l.distanceUnknown) _
    |>.defaultField "tx_power_unknown" (recovers_string l.txPowerUnknown) _
    |>.defaultField "distance_unit" (recovers_string l.distanceUnit) _

theorem LoggingSettings.recovers_toJson (s : LoggingSettings) :
    Recovers record.decode s.toJson s := by
  apply Makes.recovers fits_record.lawful ?_ rfl
  exact makes_pure LoggingSettings.mk
    |>.defaultField "level" (recovers_string s.level) _
    |>.defaultField "production" (recovers_bool s.production) _

/-- Each section is a record of its own. -/
theorem Settings.recovers_toJson (s : Settings) : Recovers record.decode s.toJson s := by
  apply Makes.recovers fits_record.lawful ?_ rfl
  exact makes_pure Settings.mk
    |>.defaultField "server" s.server.recovers_toJson _
    |>.defaultField "tracking" s.tracking.recovers_toJson _
    |>.defaultField "display" s.display.recovers_toJson _
    |>.defaultField "logging" s.logging.recovers_toJson _

/-! ### Answers -/

/-- A count that fits in a word. -/
def IsCount (n : Nat) : Prop := n < Decimal.wordSize

/-- What is decoded as a count fits in a word. -/
theorem isCount_of_decode {d : Draft} {n : Nat} (h : Decoder.count d = .ok n) : IsCount n := by
  obtain ⟨i, hi, rfl⟩ := map_eq_ok_iff.mp h
  obtain ⟨-, hhigh⟩ := range_of_int hi
  rw [IsCount, Decimal.wordSize]
  omega

/-- Of the fields of an answer only the query may be missing. -/
theorem RowList.fits_record : Fits record
    [⟨"query", .leaf, some .null⟩, ⟨"count", .leaf, none⟩, ⟨"total", .leaf, none⟩,
      ⟨"rows", .leaf, none⟩] :=
  fits_pure RowList.mk
    |>.optionalField "query" (by decide) (respects_leaf _)
    |>.required "count" (by decide) (respects_leaf _)
    |>.required "total" (by decide) (respects_leaf _)
    |>.required "rows" (by decide) (respects_leaf _)

theorem FilterAnswer.fits_record : Fits record
    [⟨"query", .leaf, some .null⟩, ⟨"count", .leaf, none⟩, ⟨"notification", .leaf, none⟩] :=
  fits_pure FilterAnswer.mk
    |>.optionalField "query" (by decide) (respects_leaf _)
    |>.required "count" (by decide) (respects_leaf _)
    |>.required "notification" (by decide) (respects_leaf _)

theorem ObservationAnswer.fits_record : Fits record
    [⟨"device_address", .leaf, none⟩, ⟨"created", .leaf, none⟩, ⟨"count", .leaf, none⟩,
      ⟨"notification", .leaf, none⟩] :=
  fits_pure ObservationAnswer.mk
    |>.required "device_address" (by decide) (respects_leaf _)
    |>.required "created" (by decide) (respects_leaf _)
    |>.required "count" (by decide) (respects_leaf _)
    |>.required "notification" (by decide) (respects_leaf _)

theorem Health.fits_record : Fits record
    [⟨"status", .leaf, none⟩, ⟨"version", .leaf, none⟩, ⟨"tracked_beacons", .leaf, none⟩] :=
  fits_pure Health.mk
    |>.required "status" (by decide) (respects_leaf _)
    |>.required "version" (by decide) (respects_leaf _)
    |>.required "tracked_beacons" (by decide) (respects_leaf _)

/-- A list is read back if both of its counts fit in a word, whatever its rows are. -/
theorem RowList.recovers_toJson {l : RowList} (hcount : IsCount l.count)
    (htotal : IsCount l.total) : Recovers record.decode l.toJson l := by
  apply Makes.recovers fits_record.lawful ?_ rfl
  exact makes_pure RowList.mk
    |>.optionalField "query" (recovers_optionalString l.query)
    |>.required "count" (recovers_count hcount)
    |>.required "total" (recovers_count htotal)
    |>.required "rows" (recovers_list Row.recovers_toJson l.rows)

theorem FilterAnswer.recovers_toJson {a : FilterAnswer} (hcount : IsCount a.count) :
    Recovers record.decode a.toJson a := by
  apply Makes.recovers fits_record.lawful ?_ rfl
  exact makes_pure FilterAnswer.mk
    |>.optionalField "query" (recovers_optionalString a.query)
    |>.required "count" (recovers_count hcount)
    |>.required "notification" a.notification.recovers_toJson

theorem ObservationAnswer.recovers_toJson {a : ObservationAnswer} (hcount : IsCount a.count) :
    Recovers record.decode a.toJson a := by
  apply Makes.recovers fits_record.lawful ?_ rfl
  exact makes_pure ObservationAnswer.mk
    |>.required "device_address" (recovers_string a.address)
    |>.required "created" (recovers_bool a.created)
    |>.required "count" (recovers_count hcount)
    |>.required "notification" a.notification.recovers_toJson

theorem Health.recovers_toJson {h : Health} (hcount : IsCount h.trackedBeacons) :
    Recovers record.decode h.toJson h := by
  apply Makes.recovers fits_record.lawful ?_ rfl
  exact makes_pure Health.mk
    |>.required "status" (recovers_string h.status)
    |>.required "version" (recovers_string h.version)
    |>.required "tracked_beacons" (recovers_count hcount)

/-- A field that is decoded as a count is one. -/
theorem yields_count {β : Type} {r : Record (Nat → β)} {name : String} {P : β → Prop}
    (hr : r.Yields fun make => ∀ n, IsCount n → P (make n)) :
    (r.required name Decoder.count).Yields P :=
  yields_required (fun _ _ => isCount_of_decode) hr

/-- Both counts of a decoded list fit in a word. -/
theorem RowList.yields_isCount : record.Yields fun l => IsCount l.count ∧ IsCount l.total :=
  yields_anyField <| yields_count <| yields_count <| yields_anyField <|
    yields_pure fun _ _ hcount _ htotal _ => ⟨hcount, htotal⟩

theorem FilterAnswer.yields_isCount : record.Yields fun a => IsCount a.count :=
  yields_anyField <| yields_count <| yields_anyField <| yields_pure fun _ _ hcount _ => hcount

theorem ObservationAnswer.yields_isCount : record.Yields fun a => IsCount a.count :=
  yields_anyField <| yields_count <| yields_anyField <| yields_anyField <|
    yields_pure fun _ _ _ hcount _ => hcount

theorem Health.yields_isCount : record.Yields fun h => IsCount h.trackedBeacons :=
  yields_count <| yields_anyField <| yields_anyField <| yields_pure fun _ _ _ hcount => hcount

/-! ### The whole data model -/

/-- Whatever the service writes is decoded from its text, and writing what was decoded from any
text and decoding it again gives the same. Counts are taken to fit in a word. -/
theorem decode_roundTrips :
    (RoundTrips Observation.toJson Observation.record.decode (fun _ => True) ∧
      RoundTrips UidFrame.toJson UidFrame.reportedRecord.decode (fun _ => True) ∧
      RoundTrips FrameFaults.toJson FrameFaults.reportedRecord.decode (fun _ => True)) ∧
    (RoundTrips Beacon.toJson Beacon.storedRecord.decode (fun _ => True) ∧
      RoundTrips UidFrame.toJson UidFrame.storedRecord.decode (fun _ => True) ∧
      RoundTrips FrameFaults.toJson FrameFaults.storedRecord.decode (fun _ => True)) ∧
    RoundTrips Row.toJson Row.record.decode (fun _ => True) ∧
    RoundTrips Settings.toJson Settings.record.decode (fun _ => True) ∧
    RoundTrips RowList.toJson RowList.record.decode
      (fun l => IsCount l.count ∧ IsCount l.total) ∧
    RoundTrips FilterAnswer.toJson FilterAnswer.record.decode (fun a => IsCount a.count) ∧
    RoundTrips ObservationAnswer.toJson ObservationAnswer.record.decode
      (fun a => IsCount a.count) ∧
    RoundTrips Health.toJson Health.record.decode (fun h => IsCount h.trackedBeacons) := by
  refine ⟨⟨?_, ?_, ?_⟩, ⟨?_, ?_, ?_⟩, ?_, ?_, ?_, ?_, ?_, ?_⟩
  · exact roundTrips_of_recovers_all Observation.recovers_toJson
  · exact roundTrips_of_recovers_all UidFrame.recovers_reported
  · exact roundTrips_of_recovers_all FrameFaults.recovers_reported
  · exact roundTrips_of_recovers_all Beacon.recovers_toJson
  · exact roundTrips_of_recovers_all UidFrame.recovers_stored
  · exact roundTrips_of_recovers_all FrameFaults.recovers_stored
  · exact roundTrips_of_recovers_all Row.recovers_toJson
  · exact roundTrips_of_recovers_all Settings.recovers_toJson
  · exact roundTrips_of_recovers (fun _ h => RowList.recovers_toJson h.1 h.2)
      fun _ _ => RowList.yields_isCount.of_decode
  · exact roundTrips_of_recovers (fun _ => FilterAnswer.recovers_toJson)
      fun _ _ => FilterAnswer.yields_isCount.of_decode
  · exact roundTrips_of_recovers (fun _ => ObservationAnswer.recovers_toJson)
      fun _ _ => ObservationAnswer.yields_isCount.of_decode
  · exact roundTrips_of_recovers (fun _ => Health.recovers_toJson)
      fun _ _ => Health.yields_isCount.of_decode

end NearbyBeacons
