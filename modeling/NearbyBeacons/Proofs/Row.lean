import Mathlib
import NearbyBeacons.Proofs.Faults
import NearbyBeacons.Row
/-!
# What a row shows

A row is written from its beacon and the labels alone, whatever the row held before
(`render_eq`), so that beacons can be rendered in turn into one row without a trace of those
before them (`recycled_row_carries_nothing`). Where the placeholders and the address show
something, all of the row does (`render_shows`): numbers have digits, a distance has a decimal
point, and the summary of the frame faults begins with a bullet unless there are none.

The library is imported whole for one lemma: that a written integer reads back
(`Int.toInt?_repr`) is part of no smaller piece of it.
-/

namespace NearbyBeacons

/-! ### Numbers -/

namespace Decimal

/-- A written whole number reads back. -/
theorem toInt?_intText (n : Int) : (intText n).toInt? = some n := by
  have hrepr : intText n = n.repr := by
    cases n with
    | ofNat n => rfl
    | negSucc n =>
      rw [← String.toList_inj]
      simp [intText, int, Int.repr, Nat.repr, digits]
  rw [hrepr, Int.toInt?_repr]

theorem not_isBlankText_intText (n : Int) : Text.isBlankText (intText n) = false := by
  have hdigit : ∃ c ∈ int n, c.isDigit = true := by
    cases n with
    | ofNat n =>
      obtain ⟨c, hc⟩ := List.exists_mem_of_ne_nil _ (digits_ne_nil n)
      exact ⟨c, hc, isDigit_of_mem_digits hc⟩
    | negSucc n =>
      obtain ⟨c, hc⟩ := List.exists_mem_of_ne_nil _ (digits_ne_nil (n + 1))
      exact ⟨c, List.mem_cons_of_mem _ hc, isDigit_of_mem_digits hc⟩
  obtain ⟨c, hc, hdigit⟩ := hdigit
  apply Text.isBlankText_eq_false (c := c)
  · rw [intText, String.toList_ofList]
    exact hc
  · exact Text.isBlank_of_isDigit hdigit

end Decimal

/-! ### Distances -/

/-- Every double has a text with two decimals that shows something. -/
theorem Binary64.exists_mem_twoDecimals (x : Binary64) :
    ∃ c ∈ x.twoDecimals, Text.isBlank c = false := by
  unfold twoDecimals
  cases x.datum with
  | finite negative m e =>
    have hpoint : '.' ∈ hundredthsText (hundredths m e) :=
      List.mem_append_right _ List.mem_cons_self
    refine ⟨'.', ?_, by decide⟩
    cases negative with
    | false => exact hpoint
    | true => exact List.mem_cons_of_mem _ hpoint
  | infinite negative => cases negative <;> exact ⟨'f', by decide, by decide⟩
  | nan => exact ⟨'N', by decide, by decide⟩

theorem Distance.not_isBlankText_text (meters : Binary64) (unit : String) :
    Text.isBlankText (text meters unit) = false := by
  obtain ⟨c, hc, hblank⟩ := meters.exists_mem_twoDecimals
  refine Text.isBlankText_eq_false ?_ hblank
  rw [text, String.toList_ofList]
  exact List.mem_append_left _ hc

/-! ### Rows -/

namespace Row

/-- The distance that a row of `b` shows, with `power` for the powers of ten. -/
def distanceOf (power : Binary64 → Binary64) (labels : Labels) (b : Beacon) : String :=
  let meters := Distance.estimateBy power b.rssi b.uidFrame.txPower
  if b.hasUidFrame ∧ meters.isFinite then Distance.text meters labels.distanceUnit
  else labels.distanceUnknown

/-- The transmit power that a row of `b` shows. -/
def txPowerOf (labels : Labels) (b : Beacon) : String :=
  if b.hasUidFrame then Decimal.intText b.uidFrame.txPower.toInt else labels.txPowerUnknown

/-- A row holds the values of its beacon, and nothing of what it held before. -/
theorem renderBy_eq (power : Binary64 → Binary64) (labels : Labels) (b : Beacon)
    (recycled : Option Row) :
    renderBy power labels b recycled =
      { address := b.address
        rssi := Decimal.intText b.rssi.toInt
        distance := distanceOf power labels b
        txPower := txPowerOf labels b
        faults := b.faults.summary
        faultsVisibility := if b.faults.summary = "" then .gone else .visible } := by
  have hfaults : ∀ row, writeFaults b row =
      { row with
        faults := b.faults.summary
        faultsVisibility := if b.faults.summary = "" then .gone else .visible } := by
    intro row
    by_cases h : b.faults.summary = "" <;> simp [writeFaults, h]
  have hsignal : ∀ row, writeSignal power labels b row =
      { row with distance := distanceOf power labels b, txPower := txPowerOf labels b } := by
    intro row
    cases huid : b.hasUidFrame with
    | false => simp [writeSignal, distanceOf, txPowerOf, huid]
    | true =>
      by_cases hfinite :
          (Distance.estimateBy power b.rssi b.uidFrame.txPower).isFinite = true <;>
        simp [writeSignal, distanceOf, txPowerOf, huid, hfinite]
  rw [renderBy, write, hfaults, hsignal]

theorem render_eq (labels : Labels) (b : Beacon) (recycled : Option Row) :
    render labels b recycled =
      { address := b.address
        rssi := Decimal.intText b.rssi.toInt
        distance := distanceOf Binary64.powerOfTen labels b
        txPower := txPowerOf labels b
        faults := b.faults.summary
        faultsVisibility := if b.faults.summary = "" then .gone else .visible } :=
  renderBy_eq Binary64.powerOfTen labels b recycled

/-! ### Recycled rows -/

/-- The rows of beacons that are rendered in turn, each into the row that the one before left. -/
def renderInTurn (labels : Labels) : Row → List Beacon → List Row
  | _, [] => []
  | row, b :: rest =>
    let next := render labels b (some row)
    next :: renderInTurn labels next rest

/-- What is rendered in turn is rendered anew. -/
theorem renderInTurn_eq_map (labels : Labels) (row : Row) (beacons : List Beacon) :
    renderInTurn labels row beacons = beacons.map fun b => render labels b none := by
  induction beacons generalizing row with
  | nil => rfl
  | cons b beacons ih => rw [renderInTurn, List.map_cons, ih, render_eq, render_eq]

/-- How a row shows the frame faults of a beacon. The part takes up space when a fault is set,
whatever its message, and it shows the summary then and nothing otherwise. -/
structure ShowsFaults (b : Beacon) (row : Row) : Prop where
  visible_iff : row.faultsVisibility = .visible ↔
    b.faults.noServiceData ≠ none ∨ b.faults.shortServiceData ≠ none ∨
      b.faults.unknownFrameType ≠ none
  faults_of_visible : row.faultsVisibility = .visible → row.faults = b.faults.summary
  faults_of_gone : row.faultsVisibility = .gone → row.faults = ""

theorem render_showsFaults (labels : Labels) (b : Beacon) (recycled : Option Row) :
    ShowsFaults b (render labels b recycled) := by
  have hset : b.faults.summary ≠ "" ↔ b.faults.noServiceData ≠ none ∨
      b.faults.shortServiceData ≠ none ∨ b.faults.unknownFrameType ≠ none := by
    rw [Ne, FrameFaults.summary_eq_empty_iff, FrameFaults.messages_eq_nil_iff, not_and_or,
      not_and_or]
  rw [render_eq]
  refine { visible_iff := ?_, faults_of_visible := fun _ => rfl, faults_of_gone := ?_ }
  · rw [← hset]
    by_cases h : b.faults.summary = "" <;> simp [h]
  · intro hgone
    by_contra h
    simp [h] at hgone

/-- **A recycled row carries nothing over.** Beacons that are rendered in turn, from whatever row
on, each have the row that is rendered for them anew. So what was rendered before cannot be told
from the rows that follow. In each row the part of the frame faults takes up space exactly when a
fault is set, even to an empty message, and shows their summary then; otherwise it is gone and
empty. -/
theorem recycled_row_carries_nothing (labels : Labels) (row : Row) (beacons : List Beacon) :
    renderInTurn labels row beacons = (beacons.map fun b => render labels b none) ∧
      (∀ (row' : Row) (before before' : List Beacon),
        (renderInTurn labels row (before ++ beacons)).drop before.length =
          (renderInTurn labels row' (before' ++ beacons)).drop before'.length) ∧
      List.Forall₂ ShowsFaults beacons (renderInTurn labels row beacons) := by
  refine ⟨renderInTurn_eq_map labels row beacons, ?_, ?_⟩
  · intro row' before before'
    have hdrop : ∀ row before, (renderInTurn labels row (before ++ beacons)).drop before.length =
        beacons.map fun b => render labels b none := by
      intro row before
      rw [renderInTurn_eq_map, List.map_append, List.drop_left' (List.length_map _)]
    rw [hdrop, hdrop]
  · rw [renderInTurn_eq_map, List.forall₂_map_right_iff, List.forall₂_same]
    exact fun b _ => render_showsFaults labels b none

/-! ### Shown values -/

/-- What a row shows of a beacon. No text is blank but that of the frame faults, which is empty
where it is gone; numbers read back; and a placeholder stands for the transmit power until
there is one. -/
structure Shows (labels : Labels) (b : Beacon) (row : Row) : Prop where
  address_eq : row.address = b.address
  address : Text.isBlankText row.address = false
  rssi : Text.isBlankText row.rssi = false
  distance : Text.isBlankText row.distance = false
  txPower : Text.isBlankText row.txPower = false
  toInt?_rssi : row.rssi.toInt? = some b.rssi.toInt
  toInt?_txPower : b.hasUidFrame = true → row.txPower.toInt? = some b.uidFrame.txPower.toInt
  txPower_eq : b.hasUidFrame = false → row.txPower = labels.txPowerUnknown
  faults : Text.isBlankText row.faults = false ↔ row.faultsVisibility = .visible
  faults_eq : row.faults = "" ↔ row.faultsVisibility = .gone

theorem not_isBlankText_distanceOf {labels : Labels}
    (h : Text.isBlankText labels.distanceUnknown = false) (power : Binary64 → Binary64)
    (b : Beacon) : Text.isBlankText (distanceOf power labels b) = false := by
  unfold distanceOf
  dsimp only
  split
  · exact Distance.not_isBlankText_text _ _
  · exact h

theorem not_isBlankText_txPowerOf {labels : Labels}
    (h : Text.isBlankText labels.txPowerUnknown = false) (b : Beacon) :
    Text.isBlankText (txPowerOf labels b) = false := by
  unfold txPowerOf
  split
  · exact Decimal.not_isBlankText_intText _
  · exact h

/-- A rendered row shows its beacon, whatever row it was written into. -/
theorem render_shows {labels : Labels} {b : Beacon}
    (hdistance : Text.isBlankText labels.distanceUnknown = false)
    (htxPower : Text.isBlankText labels.txPowerUnknown = false)
    (haddress : Text.isBlankText b.address = false) (recycled : Option Row) :
    Shows labels b (render labels b recycled) := by
  rw [render_eq]
  refine
    { address_eq := rfl
      address := haddress
      rssi := Decimal.not_isBlankText_intText _
      distance := not_isBlankText_distanceOf hdistance _ b
      txPower := not_isBlankText_txPowerOf htxPower b
      toInt?_rssi := Decimal.toInt?_intText _
      toInt?_txPower := ?_
      txPower_eq := ?_
      faults := ?_
      faults_eq := ?_ }
  · intro huid
    show (txPowerOf labels b).toInt? = _
    rw [txPowerOf, if_pos huid, Decimal.toInt?_intText]
  · intro huid
    show txPowerOf labels b = _
    rw [txPowerOf, if_neg (by simp [huid])]
  · by_cases h : b.faults.summary = ""
    · simp [h]
    · simp [h, FrameFaults.not_isBlankText_summary h]
  · by_cases h : b.faults.summary = "" <;> simp [h]

end Row

end NearbyBeacons
