import NearbyBeacons.Beacon
import NearbyBeacons.DeviceAddress
import NearbyBeacons.Error
/-!
# Observations

An observation is one received advertisement, parsed by the scanner. It is checked
before it is taken into the list of beacons.
-/

namespace NearbyBeacons

/-- One received advertisement. -/
structure Observation where
  /-- The hardware address of the sender, letters of either case. -/
  address : String
  /-- The received signal strength, in dBm. -/
  rssi : Int16
  /-- When it was received; now, if this is missing. -/
  seenAt : Option Instant := none
  uidFrame : Option UidFrame := none
  faults : Option FrameFaults := none
  deriving DecidableEq, Repr

namespace Observation

/-- The smallest signal value that a radio reports. -/
def minSignal : Int := -128

/-- The largest signal value that a radio reports. -/
def maxSignal : Int := 127

/-- Checks that a signal value fits a signed byte. -/
def checkSignal (signal : Signal) (value : Int16) : Except RequestError Unit :=
  if minSignal ≤ value.toInt ∧ value.toInt ≤ maxSignal then .ok ()
  else .error (.signalOutOfRange signal value.toInt minSignal maxSignal)

/-- Checks the address, then the signal strength, then the transmit power. -/
def validate (o : Observation) : Except RequestError Unit := do
  if DeviceAddress.isValid o.address then .ok () else .error (.invalidAddress o.address)
  checkSignal .rssi o.rssi
  match o.uidFrame with
  | some frame => checkSignal .txPower frame.txPower
  | none => .ok ()

end Observation

end NearbyBeacons
