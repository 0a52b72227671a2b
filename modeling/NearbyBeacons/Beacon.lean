import NearbyBeacons.Text.Blank
import NearbyBeacons.Text.Infix
import NearbyBeacons.Text.Lowercase
import NearbyBeacons.Time.Instant
/-!
# Beacons

A beacon is a device whose advertisements have been received. Faults in its frames
are texts to be shown, not errors: they are kept with the beacon.
-/

namespace NearbyBeacons

/-- What was parsed from the UID frame of an advertisement. -/
structure UidFrame where
  /-- Namespace and instance identifier. -/
  uid : Option String := none
  /-- Transmit power at zero meters, in dBm. -/
  txPower : Int16 := 0
  txPowerFault : Option String := none
  uidFault : Option String := none
  reservedFault : Option String := none
  deriving DecidableEq, Repr

/-- The faults found in the frames of an advertisement; any of them may be set. -/
structure FrameFaults where
  /-- The advertisement carries no service data. -/
  noServiceData : Option String := none
  /-- The service data is shorter than the smallest frame. -/
  shortServiceData : Option String := none
  /-- The frame type is unknown. -/
  unknownFrameType : Option String := none
  deriving DecidableEq, Repr

namespace FrameFaults

/-- The messages of the faults that are set, in their fixed order. -/
def messages (f : FrameFaults) : List String :=
  [f.noServiceData, f.shortServiceData, f.unknownFrameType].filterMap id

/-- One line of the summary: a bullet, the message and a line break. -/
def line (message : String) : List Char := '●' :: ' ' :: message.toList ++ ['\n']

/-- The messages as bulleted lines, without blank characters at either end. -/
def summary (f : FrameFaults) : String :=
  String.ofList (Text.trim (f.messages.flatMap line))

end FrameFaults

/-- A tracked device. -/
structure Beacon where
  /-- The hardware address. -/
  address : String
  /-- The signal strength received last, in dBm. -/
  rssi : Int16
  lastSeen : Instant
  /-- Whether a UID frame has been parsed. -/
  hasUidFrame : Bool
  uidFrame : UidFrame
  faults : FrameFaults
  deriving DecidableEq, Repr

namespace Beacon

/-- A beacon that has just been seen, with nothing parsed yet. -/
def seenAt (address : String) (rssi : Int16) (lastSeen : Instant) : Beacon :=
  { address, rssi, lastSeen, hasUidFrame := false, uidFrame := {}, faults := {} }

/-- The address without its colons, in lower case. -/
def searchableAddress (b : Beacon) : List Char :=
  Text.lowercase (b.address.toList.filter (· != ':'))

/-- Whether `needle`, in lower case already, occurs in the address without colons or in
the UID. -/
def contains (b : Beacon) (needle : List Char) : Bool :=
  Text.occursIn needle b.searchableAddress ||
    b.uidFrame.uid.any fun uid => Text.occursIn needle (Text.lowercase uid.toList)

/-- Whether a beacon matches a query, letter case aside. No query and the empty query
match every beacon; a query is not trimmed. -/
def matchesQuery (b : Beacon) : Option String → Bool
  | none => true
  | some query => query.isEmpty || b.contains (Text.lowercase query.toList)

/-- The time since a beacon was last seen. -/
def age (b : Beacon) (now : Instant) : Span := now.since b.lastSeen

end Beacon

end NearbyBeacons
