import NearbyBeacons.Text.CaseTable
/-!
# Lower case of a text

The full lower case mapping of Unicode, without language rules: one character
becomes one, `İ` becomes two, and `Σ` becomes `ς` at the end of a word and `σ`
elsewhere. The mapping of a character therefore looks at its neighbours, and of
all characters only `Σ` does.
-/

namespace NearbyBeacons.Text

/-- The distance from code point `n` to its lower case partner in `runs`, which
ascend; zero for a character without a partner. -/
def caseShift (n : Nat) : List CaseRun → Int
  | [] => 0
  | r :: rs =>
    if n < r.first then 0
    else if n ≤ r.last then (if (n - r.first) % r.stride = 0 then r.shift else 0)
    else caseShift n rs

/-- Whether code point `n` lies in one of `ranges`, which ascend. -/
def inRanges (n : Nat) : List CharRange → Bool
  | [] => false
  | r :: rs => if n < r.first then false else n ≤ r.last || inRanges n rs

/-- A character that the rule for the final sigma looks past. -/
def isCaseIgnorable (c : Char) : Bool := inRanges c.toNat caseIgnorableRanges

/-- A letter with case, or a character that counts as one. -/
def isCased (c : Char) : Bool := inRanges c.toNat casedRanges

/-- Whether the first character that is not case-ignorable is a cased one. -/
def startsCased : List Char → Bool
  | [] => false
  | c :: cs => if isCaseIgnorable c then startsCased cs else isCased c

/-- A sigma stands at the end of a word when a cased letter precedes it and none
follows. `before` holds the preceding characters, the nearest first. -/
def isWordEnd (before after : List Char) : Bool := startsCased before && !startsCased after

/-- The lower case of `c` where no neighbour matters. -/
def lowerChar (c : Char) : List Char :=
  if c = 'İ' then ['i', '\u0307']
  else [Char.ofNat ((c.toNat : Int) + caseShift c.toNat lowercaseRuns).toNat]

/-- The lower case of `c` between the characters `before`, the nearest first, and
the characters `after`. -/
def lowerIn (before : List Char) (c : Char) (after : List Char) : List Char :=
  if c = 'Σ' then [if isWordEnd before after then 'ς' else 'σ'] else lowerChar c

/-- `done`, reversed, followed by the lower case of the characters that are left. -/
def lowercaseFrom (before done : List Char) : List Char → List Char
  | [] => done.reverse
  | c :: cs => lowercaseFrom (c :: before) ((lowerIn before c cs).reverse ++ done) cs

/-- The lower case of a text. -/
def lowercase (cs : List Char) : List Char := lowercaseFrom [] [] cs

/-- The lower case of a text. -/
def lowercaseText (s : String) : String := String.ofList (lowercase s.toList)

end NearbyBeacons.Text
