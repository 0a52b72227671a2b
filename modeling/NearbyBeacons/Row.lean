import NearbyBeacons.Beacon
import NearbyBeacons.Distance
/-!
# Rows

A row is what a list shows of one beacon. Rows are recycled from one beacon to the
next, so that rendering has to overwrite every field of the row it is given.
-/

namespace NearbyBeacons

/-- Whether a part of a row takes up space. -/
inductive Visibility where
  | visible
  | gone
  deriving DecidableEq, Repr

/-- The texts that rows are rendered with. -/
structure Labels where
  /-- Shown for an unknown distance. -/
  distanceUnknown : String := "Unknown"
  /-- Shown for an unknown transmit power. -/
  txPowerUnknown : String := "Unknown"
  /-- Written behind a distance. -/
  distanceUnit : String := "meters"
  deriving DecidableEq, Repr

/-- The row of one beacon. -/
structure Row where
  address : String := ""
  rssi : String := ""
  distance : String := ""
  txPower : String := ""
  /-- The summary of the frame faults, empty when there is none. -/
  faults : String := ""
  faultsVisibility : Visibility := .gone
  deriving DecidableEq, Repr

namespace Row

/-- `row` with the distance and the transmit power of `b`: its own once a UID frame has
been parsed, placeholders before. A distance that is no number is unknown. Distances are
estimated with `power` for the powers of ten. -/
def writeSignal (power : Binary64 → Binary64) (labels : Labels) (b : Beacon) (row : Row) : Row :=
  if b.hasUidFrame then
    let meters := Distance.estimateBy power b.rssi b.uidFrame.txPower
    let row := { row with txPower := Decimal.intText b.uidFrame.txPower.toInt }
    if meters.isFinite then { row with distance := Distance.text meters labels.distanceUnit }
    else { row with distance := labels.distanceUnknown }
  else { row with txPower := labels.txPowerUnknown, distance := labels.distanceUnknown }

/-- `row` with the frame faults of `b`. The part is gone when there is nothing to
show. -/
def writeFaults (b : Beacon) (row : Row) : Row :=
  let summary := b.faults.summary
  if summary.isEmpty then { row with faults := "", faultsVisibility := .gone }
  else { row with faults := summary, faultsVisibility := .visible }

/-- `row`, overwritten with the values of `b`. -/
def write (power : Binary64 → Binary64) (labels : Labels) (b : Beacon) (row : Row) : Row :=
  let row := { row with address := b.address, rssi := Decimal.intText b.rssi.toInt }
  writeFaults b (writeSignal power labels b row)

/-- The row of `b`, written into `recycled` when there is one, with `power` for the powers
of ten. -/
def renderBy (power : Binary64 → Binary64) (labels : Labels) (b : Beacon)
    (recycled : Option Row) : Row :=
  write power labels b (recycled.getD {})

/-- The row of `b`, with the powers of the platform. -/
def render (labels : Labels) (b : Beacon) (recycled : Option Row) : Row :=
  renderBy Binary64.powerOfTen labels b recycled

end Row

end NearbyBeacons
