/-!
# Texts inside texts

A decision procedure for "occurs as a contiguous part of".
-/

namespace NearbyBeacons.Text

/-- Whether `needle` occurs in `cs` as a contiguous part. The empty text occurs in
every text. -/
def occursIn (needle : List Char) : List Char → Bool
  | [] => needle.isEmpty
  | c :: cs => needle.isPrefixOf (c :: cs) || occursIn needle cs

/-- `occursIn` decides the contiguous part relation of lists. -/
theorem occursIn_iff {needle cs : List Char} : occursIn needle cs = true ↔ needle <:+: cs := by
  induction cs with
  | nil => simp [occursIn]
  | cons c cs ih => simp [occursIn, ih, List.infix_cons_iff]

end NearbyBeacons.Text
