import Mathlib.Data.List.Basic
import NearbyBeacons.Settings
/-!
# Accepted settings

Settings are accepted when there is no complaint about any of the fields that are checked
(`validate_eq_ok_iff`). So accepted settings have placeholders that show something
(`distanceUnknown_of_validate`, `txPowerUnknown_of_validate`).
-/

namespace NearbyBeacons.Settings

/-- The list of the checked fields has all of them. -/
theorem mem_checkedFields (f : CheckedField) : f ∈ checkedFields := by
  cases f <;> decide

/-- Nothing is reported when there is nothing to complain about. -/
theorem invalidFields_eq_nil_iff {s : Settings} :
    s.invalidFields = [] ↔ ∀ f, s.complaint? f = none := by
  rw [invalidFields, List.filterMap_eq_nil_iff]
  constructor
  · intro h f
    exact Option.map_eq_none_iff.mp (h f (mem_checkedFields f))
  · intro h f _
    exact Option.map_eq_none_iff.mpr (h f)

/-- Settings are accepted when there is nothing to complain about. -/
theorem validate_eq_ok_iff {s : Settings} : s.validate = .ok () ↔ ∀ f, s.complaint? f = none := by
  rw [← invalidFields_eq_nil_iff, validate]
  split <;> simp_all

theorem blankComplaint_eq_none_iff {s : String} :
    blankComplaint s = none ↔ Text.isBlankText s = false := by
  rw [blankComplaint]
  split <;> simp_all

theorem zeroComplaint_eq_none_iff {n : Nat} : zeroComplaint n = none ↔ n ≠ 0 := by
  rw [zeroComplaint]
  split <;> simp_all

/-- A stale timeout is from one second to one day. -/
theorem timeoutComplaint_eq_none_iff {n : Nat} :
    timeoutComplaint n = none ↔ 1 ≤ n ∧ n ≤ maxStaleTimeoutSecs := by
  rw [timeoutComplaint]
  split
  · simp_all
  · split
    · simp_all
    · simp only [true_iff]; omega

/-- Where accepted settings are in use, an unknown distance is shown as something. -/
theorem distanceUnknown_of_validate {s : Settings} (h : s.validate = .ok ()) :
    Text.isBlankText s.display.distanceUnknown = false :=
  blankComplaint_eq_none_iff.mp (validate_eq_ok_iff.mp h .distanceUnknown)

theorem txPowerUnknown_of_validate {s : Settings} (h : s.validate = .ok ()) :
    Text.isBlankText s.display.txPowerUnknown = false :=
  blankComplaint_eq_none_iff.mp (validate_eq_ok_iff.mp h .txPowerUnknown)

end NearbyBeacons.Settings
