import Mathlib.Data.Prod.Lex
import NearbyBeacons.Time.Instant
/-!
# The order of instants

Instants form a linear order: the second decides, then the fraction (`Instant.le_iff`).
`Instant.le`, `Instant.min` and `Instant.max` are its order, minimum and maximum.

Outside leap seconds every instant has a place on one scale of nanoseconds, and the time
between two instants is the distance of their places (`Instant.nanos_since`). Hence it grows
with the later instant and shrinks with the earlier one (`Instant.since_le_since`), which a
leap second on either side can break. From an instant in a leap second, the time to later ones
outside of them can fall, but by less than a second (`Instant.since_sub_second_lt_since`). No time
is longer than the longest span (`Instant.nanos_since_mem_range`).
-/

namespace NearbyBeacons

/-- The second and the fraction of an instant, which decide its place in the order. -/
def Instant.key (a : Instant) : Int ×ₗ Nat := toLex (a.second, a.nano)

/-- No two instants have the same second and fraction. -/
theorem Instant.key_injective : Function.Injective Instant.key := by
  rintro ⟨s, n⟩ ⟨t, m⟩ h
  have hp : (s, n) = (t, m) := h
  simpa using hp

instance : LinearOrder Instant := LinearOrder.lift' Instant.key Instant.key_injective

theorem Instant.le_iff {a b : Instant} :
    a ≤ b ↔ a.second < b.second ∨ a.second = b.second ∧ a.nano ≤ b.nano :=
  Prod.Lex.toLex_le_toLex

@[simp] theorem Instant.le_eq_true_iff {a b : Instant} : a.le b = true ↔ a ≤ b := by
  rw [Instant.le_iff]
  simp [Instant.le]

@[simp] theorem Instant.min_eq (a b : Instant) : a.min b = Min.min a b := by
  simp [Instant.min, min_def]

@[simp] theorem Instant.max_eq (a b : Instant) : a.max b = Max.max a b := by
  simp [Instant.max, max_def]

@[simp] theorem Span.le_eq_true_iff {s t : Span} : s.le t = true ↔ s.nanos ≤ t.nanos := by
  simp [Span.le]

/-! ### Outside leap seconds -/

/-- The place of an instant on the scale of nanoseconds. A leap second shares its places with
the second that follows it. -/
def Instant.place (a : Instant) : Int := 1000000000 * a.second + a.nano

theorem Instant.nano_lt_of_not_leap {a : Instant} (ha : a.inLeapSecond = false) :
    a.nano < 1000000000 := by
  simpa [Instant.inLeapSecond] using ha

/-- Outside leap seconds, instants are in the order of their places. -/
theorem Instant.le_iff_place {a b : Instant} (ha : a.inLeapSecond = false)
    (hb : b.inLeapSecond = false) : a ≤ b ↔ a.place ≤ b.place := by
  have hna := Instant.nano_lt_of_not_leap ha
  have hnb := Instant.nano_lt_of_not_leap hb
  rw [Instant.le_iff]
  unfold Instant.place
  constructor
  · rintro (h | ⟨h, h'⟩) <;> omega
  · intro h
    omega

/-- Outside leap seconds the time between two instants is the distance of their places. -/
theorem Instant.nanos_since {a b : Instant} (ha : a.inLeapSecond = false)
    (hb : b.inLeapSecond = false) : (a.since b).nanos = a.place - b.place := by
  simp only [Instant.since, ha, hb, Bool.false_eq_true, if_false, ite_self, Span.ofSeconds,
    Instant.place]
  omega

/-- The time between two instants outside leap seconds grows with the later one and shrinks
with the earlier one. -/
theorem Instant.since_le_since {a a' b b' : Instant} (ha : a.inLeapSecond = false)
    (ha' : a'.inLeapSecond = false) (hb : b.inLeapSecond = false) (hb' : b'.inLeapSecond = false)
    (h : a ≤ a') (h' : b' ≤ b) : (a.since b).nanos ≤ (a'.since b').nanos := by
  rw [Instant.nanos_since ha hb, Instant.nanos_since ha' hb']
  have hle := (Instant.le_iff_place ha ha').mp h
  have hle' := (Instant.le_iff_place hb' hb).mp h'
  omega

/-! ### From a leap second -/

/-- The time from any instant to one outside leap seconds. A leap second at an earlier time of day
makes it one second longer. -/
theorem Instant.nanos_since_of_not_leap {a : Instant} (ha : a.inLeapSecond = false)
    (b : Instant) :
    (a.since b).nanos = a.place - b.place +
      if b.secondOfDay < a.secondOfDay ∧ b.inLeapSecond = true then 1000000000 else 0 := by
  simp only [Instant.since, ha, Bool.false_eq_true, if_false, ite_self, Span.ofSeconds,
    Instant.place]
  split <;> split <;> simp_all <;> omega

/-- From one reading to a later one, both outside leap seconds, the time since an instant never
falls by a second: a leap second counts on its own day, and no longer on the next. -/
theorem Instant.since_sub_second_lt_since {a a' : Instant} (ha : a.inLeapSecond = false)
    (ha' : a'.inLeapSecond = false) (h : a ≤ a') (b : Instant) :
    (a.since b).nanos - 1000000000 < (a'.since b).nanos := by
  rcases h.eq_or_lt with rfl | hlt
  · omega
  · have hplace : a.place < a'.place := by
      rw [← not_le, ← Instant.le_iff_place ha' ha]
      exact not_le.mpr hlt
    rw [Instant.nanos_since_of_not_leap ha, Instant.nanos_since_of_not_leap ha']
    split <;> split <;> omega

/-! ### Range -/

/-- No two instants are further apart than a span can tell. -/
theorem Instant.nanos_since_mem_range (a b : Instant) :
    -Span.largest.nanos ≤ (a.since b).nanos ∧ (a.since b).nanos ≤ Span.largest.nanos := by
  obtain ⟨counted, hlow, hhigh, hnanos⟩ : ∃ counted : Int, -1 ≤ counted ∧ counted ≤ 1 ∧
      (a.since b).nanos = 1000000000 * (a.second - b.second + counted) + (a.nano - b.nano) := by
    refine ⟨_, ?_, ?_, rfl⟩ <;> split <;> split <;> (try split) <;> omega
  have ha := And.intro a.second_ge a.second_le
  have hb := And.intro b.second_ge b.second_le
  have hna := a.nano_lt
  have hnb := b.nano_lt
  unfold minSecond maxSecond at ha hb
  simp only [hnanos, Span.largest]
  omega

end NearbyBeacons
