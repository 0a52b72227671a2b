/-!
# Instants and the time between them

An instant is a second of the civil time scale and a fraction of it in nanoseconds.
A leap second has no number of its own: it is the second before it, with a fraction
of one second or more. Subtraction counts a leap second that lies inside the span
of the day between the two instants.

Leap seconds are those that the written form can show, at the end of a minute: neither
a timestamp nor a clock gives another one. A fraction of a second or more after any
other second, which can only be put together by hand, is no instant here.
-/

namespace NearbyBeacons

/-- The first second of the year -262143. -/
def minSecond : Int := -8334601228800

/-- The last second of the year 262142. -/
def maxSecond : Int := 8210266876799

/-- A point in time, between the years -262143 and 262142. -/
structure Instant where
  /-- Seconds since 1 January 1970, leap seconds not counted. -/
  second : Int
  /-- The fraction, in nanoseconds; one second or more in a leap second. -/
  nano : Nat
  second_ge : minSecond ≤ second
  second_le : second ≤ maxSecond
  nano_lt : nano < 2000000000
  /-- A leap second is the last of its minute, where it can be written as second 60. -/
  leap : 1000000000 ≤ nano → second % 60 = 59
  deriving DecidableEq, Repr

namespace Instant

/-- The instant of a second and a fraction, when there is one. -/
def of? (second : Int) (nano : Nat) : Option Instant :=
  if h : minSecond ≤ second ∧ second ≤ maxSecond ∧ nano < 2000000000 ∧
      (1000000000 ≤ nano → second % 60 = 59) then
    some ⟨second, nano, h.1, h.2.1, h.2.2.1, h.2.2.2⟩
  else none

/-- Earlier than, or the same instant. -/
def le (a b : Instant) : Bool :=
  a.second < b.second || (a.second == b.second && a.nano ≤ b.nano)

/-- The earlier of two instants. -/
def min (a b : Instant) : Instant := if a.le b then a else b

/-- The later of two instants. -/
def max (a b : Instant) : Instant := if a.le b then b else a

/-- Whether the instant lies in a leap second. -/
def inLeapSecond (a : Instant) : Bool := 1000000000 ≤ a.nano

end Instant

/-- A signed span of time, in nanoseconds. -/
structure Span where
  nanos : Int
  deriving DecidableEq, Repr

namespace Span

/-- A span of whole seconds and nanoseconds. -/
def ofSeconds (seconds nanos : Int) : Span := ⟨1000000000 * seconds + nanos⟩

/-- The largest span: a whole number of milliseconds that fits a signed word. -/
def largest : Span := ⟨9223372036854775807 * 1000000⟩

/-- The whole seconds of a span, cut toward zero. -/
def wholeSeconds (s : Span) : Int := s.nanos.tdiv 1000000000

/-- What is left of a span beyond its whole seconds, with the sign of the span. -/
def subsecond (s : Span) : Int := s.nanos.tmod 1000000000

/-- No longer than. -/
def le (s t : Span) : Bool := s.nanos ≤ t.nanos

end Span

/-- The second of the day of an instant. -/
def Instant.secondOfDay (a : Instant) : Int := a.second % 86400

/-- The time from `b` to `a`. When the time of day of `a` is the later one, a leap
second of `b` lies inside the span and is counted; when it is the earlier one, a
leap second of `a` is not yet over. -/
def Instant.since (a b : Instant) : Span :=
  let counted : Int :=
    if b.secondOfDay < a.secondOfDay then (if b.inLeapSecond then 1 else 0)
    else if a.secondOfDay < b.secondOfDay then (if a.inLeapSecond then -1 else 0)
    else 0
  .ofSeconds (a.second - b.second + counted) ((a.nano : Int) - (b.nano : Int))

end NearbyBeacons
