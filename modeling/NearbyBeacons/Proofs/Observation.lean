import NearbyBeacons.Observation
import NearbyBeacons.Proofs.DeviceAddress
/-!
# Sound observations

An observation is sound when its address is one, and its signal strength and the transmit power
of its frame, if it has one, fit a signed byte. The checks pass sound observations and no others
(`validate_eq_ok_iff`). They look at the address first, then at the signal strength, then at the
transmit power, and report the first fault.
-/

namespace NearbyBeacons.Observation

/-- A signal value that fits a signed byte. -/
def FitsByte (value : Int16) : Prop := -128 ≤ value.toInt ∧ value.toInt ≤ 127

/-- An observation that a radio can have made. -/
structure IsSound (o : Observation) : Prop where
  address : DeviceAddress.IsGrouped o.address
  rssi : FitsByte o.rssi
  txPower : ∀ frame ∈ o.uidFrame, FitsByte frame.txPower

/-! ### Signals -/

theorem checkSignal_of_fitsByte (signal : Signal) {value : Int16} (h : FitsByte value) :
    checkSignal signal value = .ok () :=
  if_pos h

theorem checkSignal_of_not_fitsByte (signal : Signal) {value : Int16} (h : ¬FitsByte value) :
    checkSignal signal value = .error (.signalOutOfRange signal value.toInt minSignal maxSignal) :=
  if_neg h

/-! ### The first fault -/

variable {o : Observation}

theorem validate_of_sound (h : o.IsSound) : o.validate = .ok () := by
  unfold validate
  rw [if_pos (DeviceAddress.isValid_iff.mpr h.address), checkSignal_of_fitsByte .rssi h.rssi]
  cases hframe : o.uidFrame with
  | none => rfl
  | some frame => exact checkSignal_of_fitsByte .txPower (h.txPower frame hframe)

/-- A bad address is reported whatever the signals are. -/
theorem validate_of_bad_address (h : ¬DeviceAddress.IsGrouped o.address) :
    o.validate = .error (.invalidAddress o.address) := by
  unfold validate
  rw [if_neg (mt DeviceAddress.isValid_iff.mp h)]
  rfl

/-- The signal strength is looked at when the address is well formed. -/
theorem validate_of_bad_rssi (haddress : DeviceAddress.IsGrouped o.address)
    (h : ¬FitsByte o.rssi) :
    o.validate = .error (.signalOutOfRange .rssi o.rssi.toInt minSignal maxSignal) := by
  unfold validate
  rw [if_pos (DeviceAddress.isValid_iff.mpr haddress), checkSignal_of_not_fitsByte .rssi h]
  rfl

/-- The transmit power is looked at last. -/
theorem validate_of_bad_txPower (haddress : DeviceAddress.IsGrouped o.address)
    (hrssi : FitsByte o.rssi) {frame : UidFrame} (hframe : o.uidFrame = some frame)
    (h : ¬FitsByte frame.txPower) :
    o.validate = .error (.signalOutOfRange .txPower frame.txPower.toInt minSignal maxSignal) := by
  unfold validate
  rw [if_pos (DeviceAddress.isValid_iff.mpr haddress), checkSignal_of_fitsByte .rssi hrssi, hframe]
  exact checkSignal_of_not_fitsByte .txPower h

/-- The checks pass sound observations and no others. -/
theorem validate_eq_ok_iff : o.validate = .ok () ↔ o.IsSound := by
  refine ⟨fun hvalid => ?_, validate_of_sound⟩
  have haddress : DeviceAddress.IsGrouped o.address := by
    by_contra h
    rw [validate_of_bad_address h] at hvalid
    cases hvalid
  have hrssi : FitsByte o.rssi := by
    by_contra h
    rw [validate_of_bad_rssi haddress h] at hvalid
    cases hvalid
  refine ⟨haddress, hrssi, fun frame hframe => ?_⟩
  by_contra h
  rw [validate_of_bad_txPower haddress hrssi hframe h] at hvalid
  cases hvalid

end NearbyBeacons.Observation
