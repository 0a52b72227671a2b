import NearbyBeacons.Binary64.Text
/-!
# Distance

The distance of a beacon follows from the power it sends with and the power that
arrives, by the logarithmic model of path loss.
-/

namespace NearbyBeacons.Distance

/-- The loss over the first meter, in dB. -/
def lossAtOneMeter : Int32 := 41

/-- Ten times the exponent of path loss, which is two in free space. -/
def decade : Nat := 20

/-- The loss on the path, in dB, for a received signal strength and a transmit power at zero
meters. The words are wide enough for the difference of any two. -/
def pathLoss (rssi txPower : Int16) : Int32 := txPower.toInt32 - rssi.toInt32

/-- The decimal logarithm of the distance at a path loss of `loss` dB. -/
def exponentOf (loss : Int32) : Binary64 := .ofIntRatio (loss - lossAtOneMeter).toInt decade

/-- The distance in meters that is estimated from the received signal strength and the transmit
power at zero meters, where `power` takes ten to the power of a double. -/
def estimateBy (power : Binary64 → Binary64) (rssi txPower : Int16) : Binary64 :=
  power (exponentOf (pathLoss rssi txPower))

/-- The estimated distance, with the powers of the platform. -/
def estimate (rssi txPower : Int16) : Binary64 := estimateBy Binary64.powerOfTen rssi txPower

/-- A distance with two decimals and its unit. -/
def text (meters : Binary64) (unit : String) : String :=
  String.ofList (meters.twoDecimals ++ ' ' :: unit.toList)

end NearbyBeacons.Distance
