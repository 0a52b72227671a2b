import Mathlib.Data.List.Basic
import NearbyBeacons.Proofs.Roster.Run
import NearbyBeacons.Proofs.Time.Order
import NearbyBeacons.Settings
/-!
# Removals

A removal keeps the beacons that have been seen within the timeout, and finds the view anew when
it has removed any (`expire_roster`). Before another removal it makes no difference if it keeps all
that the other one keeps (`expire_expire_roster`), which comes down to single beacons: a beacon
that is fresh within a timeout is so within a longer one (`isFresh_of_timeout_le`), and outside leap
seconds none becomes fresh as time goes by (`isFresh_of_later`).

The main statement is `expire_exact_and_monotone`.
-/

namespace NearbyBeacons

/-! ### Timeouts -/

/-- The timeout is the seconds that the settings ask for, up to the longest span. -/
theorem TrackingSettings.nanos_staleTimeout (t : TrackingSettings) :
    t.staleTimeout.nanos =
      min (1000000000 * (t.staleTimeoutSecs.toNat : Int)) Span.largest.nanos := by
  have hasked : (Span.ofSeconds t.staleTimeoutSecs.toNat 0).nanos =
      1000000000 * (t.staleTimeoutSecs.toNat : Int) := by simp [Span.ofSeconds]
  rw [staleTimeout]
  simp only [Span.le_eq_true_iff, hasked]
  split
  · next hle => rw [hasked, min_eq_left hle]
  · next hnot => rw [min_eq_right (le_of_not_ge hnot)]

theorem TrackingSettings.staleTimeout_le {t t' : TrackingSettings}
    (h : t.staleTimeoutSecs ≤ t'.staleTimeoutSecs) :
    t.staleTimeout.nanos ≤ t'.staleTimeout.nanos := by
  have hsecs : t.staleTimeoutSecs.toNat ≤ t'.staleTimeoutSecs.toNat := UInt64.le_iff_toNat_le.mp h
  rw [nanos_staleTimeout, nanos_staleTimeout]
  omega

namespace Roster

/-! ### Freshness -/

theorem isFresh_of_timeout_le {now : Instant} {timeout timeout' : Span}
    (h : timeout.nanos ≤ timeout'.nanos) {b : Beacon} (hb : isFresh now timeout b = true) :
    isFresh now timeout' b = true := by
  rw [isFresh, Span.le_eq_true_iff] at hb ⊢
  exact hb.trans h

/-- Outside leap seconds, what is fresh later on is fresh now. -/
theorem isFresh_of_later {now later : Instant} {timeout : Span} (hle : now ≤ later)
    (hnow : now.inLeapSecond = false) (hlater : later.inLeapSecond = false) {b : Beacon}
    (hseen : b.lastSeen.inLeapSecond = false) (hb : isFresh later timeout b = true) :
    isFresh now timeout b = true := by
  rw [isFresh, Span.le_eq_true_iff] at hb ⊢
  exact (Instant.since_le_since hnow hlater hseen hseen hle le_rfl).trans hb

/-! ### Removals -/

/-- A removal leaves a roster of fresh beacons as it is, and otherwise finds the view anew. -/
theorem expire_roster (r : Roster) (now : Instant) (timeout : Span) :
    (r.expire now timeout).roster =
      if ∀ b ∈ r.beacons, isFresh now timeout b = true then r
      else { r with
        beacons := r.beacons.filter (isFresh now timeout)
        view := viewOf r.query (r.beacons.filter (isFresh now timeout)) } := by
  have hempty : (r.beacons.filter fun b => !isFresh now timeout b).isEmpty = true ↔
      ∀ b ∈ r.beacons, isFresh now timeout b = true := by
    simp [List.filter_eq_nil_iff]
  simp only [expire, hempty]
  split
  · rfl
  · rw [refilter_roster]

theorem expire_beacons (r : Roster) (now : Instant) (timeout : Span) :
    (r.expire now timeout).roster.beacons = r.beacons.filter (isFresh now timeout) :=
  step_beacons r (.expire now timeout)

/-- What is removed and what is kept are all that was tracked. -/
theorem expire_answer_add_total (r : Roster) (now : Instant) (timeout : Span) :
    (r.expire now timeout).answer + (r.expire now timeout).roster.total = r.total := by
  rw [expire_answer, total, expire_beacons, Nat.add_comm, ← List.length_eq_length_filter_add]
  rfl

/-- Where all beacons are fresh, a removal does nothing and reports nothing. -/
theorem expire_of_fresh {r : Roster} {now : Instant} {timeout : Span}
    (h : ∀ b ∈ r.beacons, isFresh now timeout b = true) : r.expire now timeout = ⟨r, 0, []⟩ := by
  have hempty : (r.beacons.filter fun b => !isFresh now timeout b).isEmpty = true := by
    simpa [List.filter_eq_nil_iff] using h
  rw [expire, if_pos hempty]

/-- A removal does not show after another one that keeps no more. -/
theorem expire_expire_roster {r : Roster} {now later : Instant} {timeout timeout' : Span}
    (h : ∀ b ∈ r.beacons, isFresh later timeout' b = true → isFresh now timeout b = true) :
    ((r.expire now timeout).roster.expire later timeout').roster =
      (r.expire later timeout').roster := by
  by_cases hall : ∀ b ∈ r.beacons, isFresh now timeout b = true
  · rw [expire_of_fresh hall]
  · have hlater : ¬∀ b ∈ r.beacons, isFresh later timeout' b = true :=
      fun hfresh => hall fun b hb => h b hb (hfresh b hb)
    have hkept : (r.beacons.filter (isFresh now timeout)).filter (isFresh later timeout') =
        r.beacons.filter (isFresh later timeout') := by
      rw [List.filter_filter]
      apply List.filter_congr
      intro b hb
      have hfresh := h b hb
      cases hl : isFresh later timeout' b
      · rfl
      · rw [hfresh hl]
        rfl
    rw [expire_roster r now, if_neg hall, expire_roster, expire_roster r later, if_neg hlater]
    dsimp only
    rw [hkept]
    split
    -- the second removal has nothing left to do, but it would have had without the first
    · next hfresh =>
      have hsame := List.filter_eq_self.mpr hfresh
      rw [← hkept, hsame]
    · rfl

/-- A longer timeout keeps more. -/
theorem expire_sublist_of_timeout_le (r : Roster) (now : Instant) {timeout longer : Span}
    (h : timeout.nanos ≤ longer.nanos) :
    (r.expire now timeout).roster.beacons.Sublist (r.expire now longer).roster.beacons := by
  rw [expire_beacons, expire_beacons]
  exact List.monotone_filter_right _ fun _ => isFresh_of_timeout_le h

/-- A longer timeout removes no more. -/
theorem expire_answer_le_of_timeout_le (r : Roster) (now : Instant) {timeout longer : Span}
    (h : timeout.nanos ≤ longer.nanos) :
    (r.expire now longer).answer ≤ (r.expire now timeout).answer := by
  have hkept : (r.expire now timeout).roster.total ≤ (r.expire now longer).roster.total :=
    (r.expire_sublist_of_timeout_le now h).length_le
  have hall := r.expire_answer_add_total now timeout
  have hall' := r.expire_answer_add_total now longer
  omega

/-- **Removals are exact, and monotone in the timeout and in time.** A removal keeps the beacons
whose age is within the timeout, as they are and in their order, and answers how many it has
removed; done again it does nothing. Every age is a span between the smallest and the largest one.
A longer timeout removes no more. The timeout of the settings is their number of seconds, cut at
the largest span, so that more seconds remove no more either.

Take two clock readings outside leap seconds, the first one no later. If no beacon was last seen in
a leap second, removals at both leave what a removal at the second alone leaves; and whenever a
beacon was last seen, its age falls by less than a second from the one to the other. -/
theorem expire_exact_and_monotone (r : Roster) (now : Instant) (timeout : Span) :
    let removal := r.expire now timeout
    (removal.roster.beacons = r.beacons.filter (fun b => (b.age now).le timeout) ∧
        removal.answer + removal.roster.total = r.total ∧
        removal.roster.expire now timeout = ⟨removal.roster, 0, []⟩) ∧
      (∀ b : Beacon, -Span.largest.nanos ≤ (b.age now).nanos ∧
        (b.age now).nanos ≤ Span.largest.nanos) ∧
      (∀ longer : Span, timeout.nanos ≤ longer.nanos →
        removal.roster.beacons.Sublist (r.expire now longer).roster.beacons ∧
          (r.expire now longer).answer ≤ removal.answer) ∧
      (∀ t t' : TrackingSettings,
        t.staleTimeout.nanos =
            min (1000000000 * (t.staleTimeoutSecs.toNat : Int)) Span.largest.nanos ∧
          (t.staleTimeoutSecs ≤ t'.staleTimeoutSecs →
            (r.expire now t'.staleTimeout).answer ≤ (r.expire now t.staleTimeout).answer)) ∧
      ∀ later : Instant, now ≤ later → now.inLeapSecond = false → later.inLeapSecond = false →
        ((∀ b ∈ r.beacons, b.lastSeen.inLeapSecond = false) →
          (removal.roster.expire later timeout).roster = (r.expire later timeout).roster) ∧
        ∀ b : Beacon, (b.age now).nanos - 1000000000 < (b.age later).nanos := by
  intro removal
  refine ⟨⟨expire_beacons r now timeout, expire_answer_add_total r now timeout, ?_⟩,
    fun b => Instant.nanos_since_mem_range now b.lastSeen, fun longer hle => ?_,
    fun t t' => ?_, fun later hle hnow hlater => ⟨fun hseen => ?_, fun b => ?_⟩⟩
  · apply expire_of_fresh
    rw [expire_beacons]
    exact fun b hb => (List.mem_filter.mp hb).2
  · exact ⟨expire_sublist_of_timeout_le r now hle, expire_answer_le_of_timeout_le r now hle⟩
  · exact ⟨t.nanos_staleTimeout, fun hsecs =>
      expire_answer_le_of_timeout_le r now (TrackingSettings.staleTimeout_le hsecs)⟩
  · exact expire_expire_roster fun b hb => isFresh_of_later hle hnow hlater (hseen b hb)
  · exact Instant.since_sub_second_lt_since hnow hlater hle b.lastSeen

/-- Around midnight the age of a beacon that was last seen in a leap second before noon falls by
four fifths of a second, and that of another beacon does not. -/
theorem expire_around_midnight :
    let noon : Instant := ⟨43199, 1500000000, by decide, by decide, by decide, by decide⟩
    let now : Instant := ⟨86399, 900000000, by decide, by decide, by decide, by decide⟩
    let later : Instant := ⟨86400, 100000000, by decide, by decide, by decide, by decide⟩
    let leap := Beacon.seenAt "AA:BB:CC:DD:EE:01" (-60) noon
    let plain := Beacon.seenAt "AA:BB:CC:DD:EE:02" (-60) now
    let r := ofBeacons [plain] {}
    let second : Span := ⟨1000000000⟩
    let brief : TrackingSettings := { staleTimeoutSecs := 10 }
    let endless : TrackingSettings := { staleTimeoutSecs := 18446744073709551615 }
    (now ≤ later ∧ now.inLeapSecond = false ∧ later.inLeapSecond = false) ∧
      (∀ b ∈ r.beacons, b.lastSeen.inLeapSecond = false) ∧
      ((r.expire now ⟨0⟩).roster.expire later ⟨0⟩).roster = (r.expire later ⟨0⟩).roster ∧
      (r.expire later second).answer ≤ (r.expire later ⟨0⟩).answer ∧
      (r.expire later endless.staleTimeout).answer ≤ (r.expire later brief.staleTimeout).answer ∧
      (leap.age later).nanos = (leap.age now).nanos - 800000000 ∧
      (leap.age now).nanos - 1000000000 < (leap.age later).nanos := by
  intro noon now later leap plain r second brief endless
  have hle : now ≤ later := by decide
  have hnow : now.inLeapSecond = false := by decide
  have hlater : later.inLeapSecond = false := by decide
  have hseen : ∀ b ∈ r.beacons, b.lastSeen.inLeapSecond = false := by decide
  obtain ⟨hcompose, hage⟩ := (expire_exact_and_monotone r now ⟨0⟩).2.2.2.2 later hle hnow hlater
  obtain ⟨-, -, hlonger, hsettings, -⟩ := expire_exact_and_monotone r later ⟨0⟩
  exact ⟨⟨hle, hnow, hlater⟩, hseen, hcompose hseen, (hlonger second (by decide)).2,
    (hsettings brief endless).2 (by decide), by decide, hage leap⟩

end Roster

end NearbyBeacons
