import NearbyBeacons.Roster
import NearbyBeacons.Settings
/-!
# The state of the service

The service holds its settings, which never change, and the roster. Stale beacons are
removed by sweeps, which a periodic task runs.
-/

namespace NearbyBeacons

/-- What the service holds. -/
structure Service where
  settings : Settings
  roster : Roster
  deriving DecidableEq, Repr

/-- The service after something has happened, the answer, and what was reported. -/
structure Turn (α : Type) where
  service : Service
  answer : α
  events : List Event

namespace Service

/-- The service at its start: no beacons, and the labels of the settings. -/
def start (settings : Settings) : Service := ⟨settings, .ofBeacons [] settings.display⟩

/-- Removes the beacons that have not been seen within the stale timeout, and answers how
many. -/
def sweep (s : Service) (now : Instant) : Turn Nat :=
  let o := s.roster.expire now s.settings.tracking.staleTimeout
  let reported := if o.answer = 0 then [] else [.staleExpired o.answer o.roster.total]
  ⟨{ s with roster := o.roster }, o.answer, o.events ++ reported⟩

/-- One run of the periodic task, with a single sweep in it; the answer is whether the
task came to an end by itself. A period of zero is no period: the task fails before it
does anything. -/
def runExpiry (s : Service) (now : Instant) : Turn Bool :=
  let period := s.settings.tracking.expiryIntervalSecs.toNat
  if period = 0 then ⟨s, false, []⟩
  else
    let swept := s.sweep now
    ⟨swept.service, true, .expiryStarted period :: swept.events ++ [.expiryStopped]⟩

end Service

end NearbyBeacons
