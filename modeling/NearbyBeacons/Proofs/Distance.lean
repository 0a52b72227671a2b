import NearbyBeacons.Proofs.Binary64.Text
import NearbyBeacons.Proofs.Row
/-!
# Distances are ordered as the loss on the path

Of the powers of ten only order, sign and a range where they are finite are relied on
(`IsPowerOfTen`). The loss is an exact difference (`toInt_pathLoss`), its rounding to an exponent
and that of the distance to hundredths keep order, and so does the power between them: a beacon
with less loss is never shown as farther away (`distance_shown_mono`).
-/

namespace NearbyBeacons

namespace Distance

/-! ### Powers of ten -/

/-- What is relied on of a function that takes ten to the power of a double: it is a number and
not a negative one, grows with the exponent, and is finite for exponents up to fifteen. -/
structure IsPowerOfTen (power : Binary64 → Binary64) : Prop where
  nonneg : ∀ x, x.isFinite = true → 0 ≤ power x
  mono : ∀ x y, x.isFinite = true → y.isFinite = true → x ≤ y → power x ≤ power y
  isFinite : ∀ x, Binary64.ofIntRatio (-15) 1 ≤ x → x ≤ Binary64.ofIntRatio 15 1 →
    (power x).isFinite = true

/-! ### Exponents -/

/-- The loss on the path of a beacon, as a whole number. -/
def lossOf (rssi txPower : Int16) : Int := txPower.toInt - rssi.toInt

theorem lossOf_bounds (rssi txPower : Int16) :
    -65535 ≤ lossOf rssi txPower ∧ lossOf rssi txPower ≤ 65535 := by
  have h := rssi.le_toInt
  have h' := txPower.le_toInt
  have hlt := rssi.toInt_lt
  have hlt' := txPower.toInt_lt
  unfold lossOf
  omega

/-- No difference of two signals, and none of such a difference and the loss over the first meter,
leaves the range of its word. -/
theorem toInt_pathLoss (rssi txPower : Int16) :
    (pathLoss rssi txPower - lossAtOneMeter).toInt = lossOf rssi txPower - 41 := by
  obtain ⟨hlow, hhigh⟩ := lossOf_bounds rssi txPower
  have hdifference : (txPower.toInt - rssi.toInt).bmod (2 ^ 32) = lossOf rssi txPower :=
    Int.bmod_eq_of_le (by unfold lossOf at hlow; omega) (by unfold lossOf at hhigh; omega)
  have hmeter : lossAtOneMeter.toInt = 41 := rfl
  rw [pathLoss, Int32.toInt_sub, Int32.toInt_sub, Int16.toInt_toInt32, Int16.toInt_toInt32,
    hdifference, hmeter, Int.bmod_eq_of_le (by omega) (by omega)]

/-- Exponents are far from the largest double. -/
theorem nearestMagnitude_lt {n : Int} (h : n.natAbs ≤ 65576) :
    Binary64.nearestMagnitude n.natAbs decade < 2047 * Binary64.exponentUnit := by
  have hmono : Binary64.nearestMagnitude n.natAbs decade ≤
      Binary64.nearestMagnitude 65576 decade := by
    refine Binary64.nearestMagnitude_mono (by decide) (by decide) ?_
    have hle : (n.natAbs : ℚ) ≤ (65576 : ℕ) := by exact_mod_cast h
    gcongr
  exact hmono.trans_lt (by decide +kernel)

section

variable (rssi txPower : Int16)

theorem exponentOf_pathLoss :
    exponentOf (pathLoss rssi txPower) =
      Binary64.ofIntRatio (lossOf rssi txPower - 41) decade := by
  rw [exponentOf, toInt_pathLoss]

theorem nearestMagnitude_loss_lt :
    Binary64.nearestMagnitude (lossOf rssi txPower - 41).natAbs decade <
      2047 * Binary64.exponentUnit := by
  have hbounds := lossOf_bounds rssi txPower
  exact nearestMagnitude_lt (by omega)

theorem isFinite_exponentOf : (exponentOf (pathLoss rssi txPower)).isFinite = true := by
  rw [exponentOf_pathLoss]
  exact Binary64.isFinite_ofIntRatio (nearestMagnitude_loss_lt rssi txPower)

end

/-- The exponent grows with the loss. -/
theorem exponentOf_mono {rssi txPower rssi' txPower' : Int16}
    (h : lossOf rssi txPower ≤ lossOf rssi' txPower') :
    exponentOf (pathLoss rssi txPower) ≤ exponentOf (pathLoss rssi' txPower') := by
  rw [exponentOf_pathLoss, exponentOf_pathLoss]
  refine Binary64.ofIntRatio_le_ofIntRatio (by decide) (by decide) ?_
    (nearestMagnitude_loss_lt rssi txPower) (nearestMagnitude_loss_lt rssi' txPower')
  have hle : ((lossOf rssi txPower - 41 : ℤ) : ℚ) ≤ (lossOf rssi' txPower' - 41 : ℤ) := by
    exact_mod_cast Int.sub_le_sub_right h 41
  gcongr

/-- The exponents of signals of eight bits are at most fifteen. -/
theorem exponentOf_bounds {rssi txPower : Int16} (hlow : -255 ≤ lossOf rssi txPower)
    (hhigh : lossOf rssi txPower ≤ 255) :
    Binary64.ofIntRatio (-15) 1 ≤ exponentOf (pathLoss rssi txPower) ∧
      exponentOf (pathLoss rssi txPower) ≤ Binary64.ofIntRatio 15 1 := by
  have hfifteen : ∀ n : Int, n.natAbs = 15 →
      Binary64.nearestMagnitude n.natAbs 1 < 2047 * Binary64.exponentUnit := by
    intro n hn
    rw [hn]
    decide +kernel
  -- with the loss over the first meter these are exponents from -14.8 to 10.7
  have hloss := nearestMagnitude_loss_lt rssi txPower
  have hlowq : ((-255 : ℤ) : ℚ) ≤ lossOf rssi txPower := by exact_mod_cast hlow
  have hhighq : (lossOf rssi txPower : ℚ) ≤ (255 : ℤ) := by exact_mod_cast hhigh
  rw [exponentOf_pathLoss]
  constructor
  · refine Binary64.ofIntRatio_le_ofIntRatio (by decide) (by decide) ?_ (hfifteen _ rfl) hloss
    rw [decade, le_div_iff₀ (by norm_num)]
    push_cast at hlowq ⊢
    linarith
  · refine Binary64.ofIntRatio_le_ofIntRatio (by decide) (by decide) ?_ hloss (hfifteen _ rfl)
    rw [decade, div_le_iff₀ (by norm_num)]
    push_cast at hhighq ⊢
    linarith

/-! ### Estimates -/

section

variable {power : Binary64 → Binary64} (hpower : IsPowerOfTen power)
include hpower

theorem estimateBy_nonneg (rssi txPower : Int16) : 0 ≤ estimateBy power rssi txPower :=
  hpower.nonneg _ (isFinite_exponentOf rssi txPower)

theorem estimateBy_mono {rssi txPower rssi' txPower' : Int16}
    (h : lossOf rssi txPower ≤ lossOf rssi' txPower') :
    estimateBy power rssi txPower ≤ estimateBy power rssi' txPower' :=
  hpower.mono _ _ (isFinite_exponentOf rssi txPower) (isFinite_exponentOf rssi' txPower')
    (exponentOf_mono h)

theorem isFinite_estimateBy {rssi txPower : Int16} (hlow : -255 ≤ lossOf rssi txPower)
    (hhigh : lossOf rssi txPower ≤ 255) : (estimateBy power rssi txPower).isFinite = true := by
  obtain ⟨hle, hge⟩ := exponentOf_bounds hlow hhigh
  exact hpower.isFinite _ hle hge

end

/-- An estimate depends on nothing but the loss. -/
theorem estimateBy_congr (power : Binary64 → Binary64) {rssi txPower rssi' txPower' : Int16}
    (h : lossOf rssi txPower = lossOf rssi' txPower') :
    estimateBy power rssi txPower = estimateBy power rssi' txPower' := by
  rw [estimateBy, estimateBy, exponentOf_pathLoss, exponentOf_pathLoss, h]

/-! ### Shown numbers -/

/-- What an estimate is shown as: the number that its text shows, and `⊤`, above all numbers, for
an estimate that is no number. -/
def shown? (meters : Binary64) : Option (WithTop ℚ) :=
  if meters.isFinite then (Decimal.rational? meters.twoDecimals).map fun q : ℚ => (q : WithTop ℚ)
  else some ⊤

theorem exists_shown? (meters : Binary64) : ∃ n, shown? meters = some n := by
  unfold shown?
  split
  · next h =>
    obtain ⟨k, -, hread⟩ := Binary64.exists_rational?_twoDecimals h
    rw [hread]
    exact ⟨_, rfl⟩
  · exact ⟨⊤, rfl⟩

theorem shown?_eq_top_iff {meters : Binary64} :
    shown? meters = some ⊤ ↔ meters.isFinite = false := by
  unfold shown?
  cases meters.isFinite with
  | false => exact iff_of_true rfl rfl
  | true =>
    refine iff_of_false ?_ Bool.true_eq_false.mp
    intro h
    obtain ⟨q, -, hq⟩ := Option.map_eq_some_iff.mp h
    exact WithTop.coe_ne_top hq

/-- A larger estimate is not shown as a smaller one. -/
theorem shown?_mono {x y : Binary64} {m n : WithTop ℚ} (hx : 0 ≤ x) (hy : 0 ≤ y) (hle : x ≤ y)
    (hm : shown? x = some m) (hn : shown? y = some n) : m ≤ n := by
  cases hyfinite : y.isFinite with
  | false =>
    rw [shown?_eq_top_iff.mpr hyfinite] at hn
    cases hn
    exact le_top
  | true =>
    have hxfinite : x.isFinite = true :=
      Binary64.isFinite_of_le_of_le Binary64.isFinite_zero hx hle hyfinite
    obtain ⟨p, q, hp, hq, hpq⟩ :=
      Binary64.rational?_twoDecimals_mono hxfinite hyfinite hx hy hle
    rw [shown?, if_pos hxfinite, hp] at hm
    rw [shown?, if_pos hyfinite, hq] at hn
    cases hm
    cases hn
    exact WithTop.coe_le_coe.mpr hpq

/-! ### Powers with two steps -/

/-- A function of doubles with two steps: zero, from the first exponent on the given power, and
from the second one on infinity. -/
def stepPower (first power second x : Binary64) : Binary64 :=
  if second.key ≤ x.key then Binary64.infinity false
  else if first.key ≤ x.key then power
  else 0

theorem isPowerOfTen_stepPower {first power second : Binary64} (hfinite : power.isFinite = true)
    (hnonneg : 0 ≤ power) (hrange : (Binary64.ofIntRatio 15 1).key < second.key) :
    IsPowerOfTen (stepPower first power second) where
  nonneg x _ := by
    unfold stepPower
    split
    · exact Binary64.le_infinity Binary64.isFinite_zero
    · split
      · exact hnonneg
      · exact Binary64.le_self_of_isFinite Binary64.isFinite_zero
  mono x y hx hy hle := by
    have hkey := (Binary64.le_iff_key_le hx hy).mp hle
    unfold stepPower
    -- the steps that the lesser exponent has reached, the greater one has reached too
    split
    · rw [if_pos (by omega)]
      exact ⟨⊤, ⊤, by decide, by decide, le_rfl⟩
    · split
      · split
        · exact Binary64.le_infinity hfinite
        · rw [if_pos (by omega)]
          exact Binary64.le_self_of_isFinite hfinite
      · split
        · exact Binary64.le_infinity Binary64.isFinite_zero
        · split
          · exact hnonneg
          · exact Binary64.le_self_of_isFinite Binary64.isFinite_zero
  isFinite x hlow hhigh := by
    have hx : x.isFinite = true :=
      Binary64.isFinite_of_le_of_le (by decide +kernel) hlow hhigh (by decide +kernel)
    have hkey := (Binary64.le_iff_key_le hx (by decide +kernel)).mp hhigh
    unfold stepPower
    rw [if_neg (by omega)]
    split
    · exact hfinite
    · exact Binary64.isFinite_zero

end Distance

namespace Row

/-- The distance that a row of `b` shows: the number in front of the unit, and `⊤`, above all
numbers, for the placeholder of an estimate that is no number. -/
def distanceShown? (power : Binary64 → Binary64) (labels : Labels) (b : Beacon) (row : Row) :
    Option (WithTop ℚ) :=
  if (Distance.estimateBy power b.rssi b.uidFrame.txPower).isFinite then
    ((row.distance.toList.dropSuffix? (' ' :: labels.distanceUnit.toList)).bind
      Decimal.rational?).map fun q : ℚ => (q : WithTop ℚ)
  else if row.distance = labels.distanceUnknown then some ⊤
  else none

theorem distanceShown?_renderBy (power : Binary64 → Binary64) (labels : Labels) {b : Beacon}
    (huid : b.hasUidFrame = true) (recycled : Option Row) :
    distanceShown? power labels b (renderBy power labels b recycled) =
      Distance.shown? (Distance.estimateBy power b.rssi b.uidFrame.txPower) := by
  have hdistance : (renderBy power labels b recycled).distance = distanceOf power labels b := by
    rw [renderBy_eq]
  unfold distanceShown? Distance.shown?
  cases hfinite : (Distance.estimateBy power b.rssi b.uidFrame.txPower).isFinite with
  | false =>
    have hunknown : distanceOf power labels b = labels.distanceUnknown :=
      if_neg fun h => Bool.false_ne_true (hfinite ▸ h.2)
    simp [hdistance, hunknown]
  | true =>
    -- the space and the unit are behind the number, whatever the unit holds
    let meters := Distance.estimateBy power b.rssi b.uidFrame.txPower
    have htext : distanceOf power labels b = Distance.text meters labels.distanceUnit :=
      if_pos ⟨huid, hfinite⟩
    have hsuffix : (meters.twoDecimals ++ ' ' :: labels.distanceUnit.toList).dropSuffix?
        (' ' :: labels.distanceUnit.toList) = some meters.twoDecimals :=
      List.dropSuffix?_eq_some_iff.mpr ⟨_, rfl, beq_self_eq_true _⟩
    rw [if_pos rfl, if_pos rfl, hdistance, htext, Distance.text, String.toList_ofList, hsuffix]
    rfl

/-- **Displayed distance is ordered like the loss on the path.** With any powers of ten that are
as they have to be, a beacon whose transmit power exceeds the received strength by no more than
that of another is not shown as farther away, the placeholder of an estimate that is no number
being above all numbers. Where the differences are equal, so are the texts; and signals of eight
bits never have the placeholder. -/
theorem distance_shown_mono {power : Binary64 → Binary64} (hpower : Distance.IsPowerOfTen power)
    (labels : Labels) {near far : Beacon} (hnear : near.hasUidFrame = true)
    (hfar : far.hasUidFrame = true) (recycled recycled' : Option Row) :
    let loss (b : Beacon) : Int := b.uidFrame.txPower.toInt - b.rssi.toInt
    let row := renderBy power labels near recycled
    let row' := renderBy power labels far recycled'
    ∃ m n, distanceShown? power labels near row = some m ∧
      distanceShown? power labels far row' = some n ∧
      (loss near ≤ loss far → m ≤ n) ∧
      (loss near = loss far → row.distance = row'.distance) ∧
      (-128 ≤ near.rssi.toInt ∧ near.rssi.toInt ≤ 127 → -128 ≤ near.uidFrame.txPower.toInt ∧
          near.uidFrame.txPower.toInt ≤ 127 → m ≠ ⊤) := by
  intro loss row row'
  obtain ⟨m, hm⟩ :=
    Distance.exists_shown? (Distance.estimateBy power near.rssi near.uidFrame.txPower)
  obtain ⟨n, hn⟩ :=
    Distance.exists_shown? (Distance.estimateBy power far.rssi far.uidFrame.txPower)
  refine ⟨m, n, ?_, ?_, ?_, ?_, ?_⟩
  · rw [distanceShown?_renderBy power labels hnear, hm]
  · rw [distanceShown?_renderBy power labels hfar, hn]
  · intro hle
    exact Distance.shown?_mono (Distance.estimateBy_nonneg hpower _ _)
      (Distance.estimateBy_nonneg hpower _ _) (Distance.estimateBy_mono hpower hle) hm hn
  · intro heq
    have hmeters := Distance.estimateBy_congr power heq
    show (renderBy power labels near recycled).distance =
      (renderBy power labels far recycled').distance
    simp only [renderBy_eq, distanceOf, hmeters, hnear, hfar]
  · rintro ⟨hlow, hhigh⟩ ⟨hlow', hhigh'⟩ rfl
    have hfinite : (Distance.estimateBy power near.rssi near.uidFrame.txPower).isFinite = true :=
      Distance.isFinite_estimateBy hpower (by unfold Distance.lossOf; omega)
        (by unfold Distance.lossOf; omega)
    rw [Distance.shown?_eq_top_iff.mp hm] at hfinite
    cases hfinite

/-- A beacon that is shown at 2.82 meters is not behind one whose estimate is infinite. -/
theorem near_beacon_before_unbounded :
    let now : Instant := ⟨0, 0, by decide, by decide, by decide, by decide⟩
    let power :=
      Distance.stepPower (Distance.exponentOf 50) ⟨0x40068c0c59ab1564⟩ (Distance.exponentOf 65535)
    let near : Beacon :=
      { Beacon.seenAt "AA:BB:CC:DD:EE:FF" (-70) now with
        hasUidFrame := true, uidFrame := { txPower := -20 } }
    let far : Beacon :=
      { Beacon.seenAt "11:22:33:44:55:66" (-32768) now with
        hasUidFrame := true, uidFrame := { txPower := 32767 } }
    Distance.IsPowerOfTen power ∧ near.hasUidFrame = true ∧ far.hasUidFrame = true ∧
      (renderBy power {} near none).distance = "2.82 meters" ∧
      (renderBy power {} far none).distance = "Unknown" ∧
      ∃ m n, distanceShown? power {} near (renderBy power {} near none) = some m ∧
        distanceShown? power {} far (renderBy power {} far none) = some n ∧ m ≤ n ∧ m ≠ ⊤ := by
  intro now power near far
  have hpower : Distance.IsPowerOfTen power :=
    Distance.isPowerOfTen_stepPower (by decide)
      ((Binary64.le_iff_key_le Binary64.isFinite_zero (by decide)).mpr (by decide))
      (by decide +kernel)
  have hnear : near.hasUidFrame = true := rfl
  have hfar : far.hasUidFrame = true := rfl
  obtain ⟨m, n, hm, hn, hmono, -, hrange⟩ := distance_shown_mono hpower {} hnear hfar none none
  exact ⟨hpower, hnear, hfar, by decide +kernel, by decide +kernel, m, n, hm, hn,
    hmono (by decide), hrange (by decide) (by decide)⟩

end Row

end NearbyBeacons
