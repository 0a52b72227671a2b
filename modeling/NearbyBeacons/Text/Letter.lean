import NearbyBeacons.Text.LetterTable
import NearbyBeacons.Text.Lowercase
/-!
# Letters and numbers of all scripts

Character classes beyond ASCII, for texts that people write in their own script.
-/

namespace NearbyBeacons.Text

/-- A letter of some script. -/
def isLetter (c : Char) : Bool := inRanges c.toNat letterRanges

/-- A letter or a number of some script. -/
def isLetterOrNumber (c : Char) : Bool := isLetter c || inRanges c.toNat numberRanges

end NearbyBeacons.Text
