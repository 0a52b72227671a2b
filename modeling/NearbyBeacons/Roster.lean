import NearbyBeacons.Event
import NearbyBeacons.Observation
import NearbyBeacons.Row
/-!
# The roster

The roster holds every tracked beacon and the view of them that is shown. Without a
query the view is the whole list; with one it is the list of the positions of the
beacons that match, and it is found anew whenever the query or the list changes.

Operations return the new roster together with their answer and the events that they
report, in order. The time is an argument.
-/

namespace NearbyBeacons

/-- What is shown of the tracked beacons. -/
inductive View where
  /-- All of them. -/
  | all
  /-- Those at the given positions. -/
  | subset (positions : List Nat)
  deriving DecidableEq, Repr

/-- The tracked beacons and the view of them. -/
structure Roster where
  beacons : List Beacon
  view : View
  query : Option String
  labels : Labels
  deriving DecidableEq, Repr

/-- A new roster, the answer of the operation that made it, and what was reported. -/
structure Outcome (α : Type) where
  roster : Roster
  answer : α
  events : List Event

/-- The answer to an observation. -/
structure Recorded where
  /-- Whether the beacon is new. -/
  created : Bool
  notification : Notification
  deriving DecidableEq, Repr

namespace Roster

/-- A roster of the given beacons, without a query. -/
def ofBeacons (beacons : List Beacon) (labels : Labels) : Roster :=
  { beacons, view := .all, query := none, labels }

/-! ### Reading -/

/-- The number of tracked beacons, whatever the query. -/
def total (r : Roster) : Nat := r.beacons.length

/-- The number of visible beacons. -/
def count (r : Roster) : Nat :=
  match r.view with
  | .all => r.beacons.length
  | .subset positions => positions.length

/-- The visible beacon at a position. A view that holds a position past the end of the list, which
no operation leaves behind, shows nothing there. -/
def get? (r : Roster) (position : Nat) : Option Beacon :=
  match r.view with
  | .all => r.beacons[position]?
  | .subset positions => positions[position]?.bind fun i => r.beacons[i]?

/-- The visible beacons, in order. A position past the end of the list would be passed over; a
view that is up to date has none. -/
def visible (r : Roster) : List Beacon :=
  match r.view with
  | .all => r.beacons
  | .subset positions => positions.filterMap fun i => r.beacons[i]?

/-- The complaint about a position past the end of the view, which a caller that asks
for a beacon without checking its position is stopped with. -/
def positionFault (r : Roster) (position : Nat) : String :=
  "position " ++ Decimal.natText position ++ " out of range for " ++ Decimal.natText r.count ++
    " filtered beacons"

/-- The visible beacon at a position that the caller vouches for. -/
def itemAt (r : Roster) (position : Nat) : Except String Beacon :=
  match r.get? position with
  | some b => .ok b
  | none => .error (r.positionFault position)

/-- The row at a position that the caller vouches for, and the events reported before
the position is looked at. -/
def renderRow (r : Roster) (position : Nat) (recycled : Option Row) :
    Except String Row × List Event :=
  ((r.itemAt position).map fun b => Row.render r.labels b recycled, [.renderingRow position])

/-- The rows of all visible beacons, and the events reported. Where the view is up to date, these
are what `renderRow` gives for one position after another (`IsCurrent.renderAll_eq`). -/
def renderAll (r : Roster) : List Row × List Event :=
  (r.visible.map fun b => Row.render r.labels b none, (List.range r.count).map .renderingRow)

/-- The row at a position. -/
def tryRenderRow (r : Roster) (position : Nat) : Except RequestError Row :=
  match r.get? position with
  | some b => .ok (Row.render r.labels b none)
  | none => .error (.positionOutOfRange position r.count)

/-! ### Changing -/

/-- The positions, counted from `start` on, of the beacons that match `query`. -/
def matchingPositions (query : Option String) (start : Nat) : List Beacon → List Nat
  | [] => []
  | b :: rest =>
    if b.matchesQuery query then start :: matchingPositions query (start + 1) rest
    else matchingPositions query (start + 1) rest

/-- Finds the view of the current query anew. -/
def refilter (r : Roster) : Outcome Notification :=
  let view := match r.query with
    | none => .all
    | some query => .subset (matchingPositions (some query) 0 r.beacons)
  let r := { r with view }
  let notification := Notification.ofCount r.count
  ⟨r, notification, [.filterApplied r.query r.count r.total notification]⟩

/-- The query that a text asks for: none for the empty text. -/
def activeQuery (query : Option String) : Option String := query.filter (!·.isEmpty)

/-- Replaces the query. -/
def applyFilter (r : Roster) (query : Option String) : Outcome Notification :=
  { r with query := activeQuery query }.refilter

/-- `b`, updated by an observation made at `seenAt`. The time of the last sighting never
moves back. -/
def update (o : Observation) (seenAt : Instant) (b : Beacon) : Beacon :=
  { b with
    rssi := o.rssi
    lastSeen := b.lastSeen.max seenAt
    hasUidFrame := b.hasUidFrame || o.uidFrame.isSome
    uidFrame := o.uidFrame.getD b.uidFrame
    faults := o.faults.getD b.faults }

/-- Applies `f` to the first beacon with the given address. -/
def updateFirst (address : String) (f : Beacon → Beacon) : List Beacon → List Beacon
  | [] => []
  | b :: rest => if b.address = address then f b :: rest else b :: updateFirst address f rest

/-- Takes in an observation: the first beacon with its address in upper case is updated,
and without one a new beacon is added at the end. A time after `now` counts as
`now`. -/
def record (r : Roster) (now : Instant) (o : Observation) : Outcome Recorded :=
  let seenAt := match o.seenAt with
    | none => now
    | some at' => at'.min now
  let address := DeviceAddress.normal o.address
  let created := !r.beacons.any (·.address == address)
  -- a new beacon is put in place first, so that one update serves both cases
  let known := if created then r.beacons ++ [Beacon.seenAt address o.rssi seenAt] else r.beacons
  let filtered := { r with beacons := updateFirst address (update o seenAt) known }.refilter
  ⟨filtered.roster, ⟨created, filtered.answer⟩,
    (if created then [.newBeacon address o.rssi] else []) ++ filtered.events⟩

/-- Whether a beacon has been seen within `timeout` before `now`. -/
def isFresh (now : Instant) (timeout : Span) (b : Beacon) : Bool := (b.age now).le timeout

/-- Removes the beacons that have not been seen within `timeout` before `now`, and
answers how many. The view is found anew if there were any. -/
def expire (r : Roster) (now : Instant) (timeout : Span) : Outcome Nat :=
  let fresh := r.beacons.filter (isFresh now timeout)
  let stale := r.beacons.filter fun b => !isFresh now timeout b
  let reported := stale.map fun b => Event.beaconExpired b.address
  if stale.isEmpty then ⟨r, 0, []⟩
  else
    -- the positions of the view are those of the list before
    let filtered := { r with beacons := fresh }.refilter
    ⟨filtered.roster, stale.length, reported ++ filtered.events⟩

end Roster

end NearbyBeacons
