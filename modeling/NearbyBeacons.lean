import NearbyBeacons.Json.Pointer
import NearbyBeacons.Proofs.Distance
import NearbyBeacons.Proofs.LogFilter
import NearbyBeacons.Proofs.Roster.Independence
import NearbyBeacons.Proofs.Roster.LetterCase
import NearbyBeacons.Proofs.Roster.Log
import NearbyBeacons.Proofs.Roster.Radio
import NearbyBeacons.Proofs.Roster.Removal
import NearbyBeacons.Proofs.Roster.Search
import NearbyBeacons.Proofs.Service.Expiry
import NearbyBeacons.Proofs.Service.Failures
import NearbyBeacons.Proofs.Service.Frame
import NearbyBeacons.Proofs.Service.Ingest
import NearbyBeacons.Proofs.Service.Lookup
import NearbyBeacons.Proofs.Service.Rows
import NearbyBeacons.Proofs.Settings.Reports
import NearbyBeacons.Proofs.Settings.RoundTrip
import NearbyBeacons.Proofs.Settings.Sources
import NearbyBeacons.Proofs.Wire.RoundTrip
import NearbyBeacons.Service.Handler
import NearbyBeacons.Wire.Settings
