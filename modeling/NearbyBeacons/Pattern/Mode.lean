import NearbyBeacons.Text.Blank
/-!
# How a pattern is read

Two of the flags that a pattern may set decide how the rest of it is read: `x`, under
which blanks and comments mean nothing, and `u`, without which it speaks of bytes and may
only name ASCII characters. The other flags change what the pattern matches, and are only
checked.
-/

namespace NearbyBeacons.Pattern

/-- The flags that decide how a pattern is read. -/
structure Mode where
  /-- Blanks and comments mean nothing. -/
  spaced : Bool := false
  /-- The pattern speaks of characters, and otherwise of bytes. -/
  unicode : Bool := true
  deriving DecidableEq, Repr

/-! ### Blanks -/

/-- `cs` without the blanks and comments it starts with. A comment goes on to the end of
its line. -/
def skipBlanks : (inComment : Bool) → List Char → List Char
  | _, [] => []
  | true, c :: rest => skipBlanks (c != '\n') rest
  | false, c :: rest =>
    if Text.isBlank c then skipBlanks false rest
    else if c = '#' then skipBlanks true rest
    else c :: rest

theorem length_skipBlanks_le (inComment : Bool) (cs : List Char) :
    (skipBlanks inComment cs).length ≤ cs.length := by
  induction cs generalizing inComment with
  | nil => cases inComment <;> exact Nat.le_refl 0
  | cons c rest ih =>
    cases inComment with
    | true => exact Nat.le_succ_of_le (ih _)
    | false =>
      unfold skipBlanks
      split
      · exact Nat.le_succ_of_le (ih _)
      · split
        · exact Nat.le_succ_of_le (ih _)
        · exact Nat.le_refl _

namespace Mode

/-- `cs` without what means nothing at its start. -/
def skip (m : Mode) (cs : List Char) : List Char := if m.spaced then skipBlanks false cs else cs

theorem length_skip_le (m : Mode) (cs : List Char) : (m.skip cs).length ≤ cs.length := by
  unfold skip
  split
  · exact length_skipBlanks_le false cs
  · exact Nat.le_refl _

/-- The character that `cs` goes on with, as far as a hyphen looks ahead: past blanks and
the mark of one comment, though not past its text. -/
def ahead? (m : Mode) (cs : List Char) : Option Char :=
  if m.spaced then
    let later := match cs.dropWhile Text.isBlank with
      | '#' :: rest => rest.dropWhile Text.isBlank
      | rest => rest
    later.head?.or cs.head?
  else cs.head?

end Mode

/-! ### Flags -/

/-- The letters of the flags. -/
def flagLetters : List Char := ['i', 'm', 's', 'U', 'u', 'R', 'x']

/-- Whether `run` sets flags: each at most once, those after a hyphen off, and something
after the hyphen. -/
def isFlagRun (run : List Char) : Bool :=
  run.all (fun c => c == '-' || flagLetters.contains c) && decide run.Nodup &&
    run.getLast? != some '-'

/-- The state of a flag after `run`. -/
def switched (run : List Char) (flag : Char) (before : Bool) : Bool :=
  if (run.takeWhile (· != '-')).contains flag then true
  else if run.contains flag then false
  else before

/-- The mode after `run`. -/
def Mode.switch (m : Mode) (run : List Char) : Mode :=
  { spaced := switched run 'x' m.spaced, unicode := switched run 'u' m.unicode }

/-- A character that ends flags. -/
def endsFlags (c : Char) : Bool := c == ':' || c == ')'

/-- The flags that `cs` starts with, and what follows them. -/
def flags? (cs : List Char) : Option (List Char × List Char) :=
  let run := cs.takeWhile (!endsFlags ·)
  if isFlagRun run then some (run, cs.dropWhile (!endsFlags ·)) else none

theorem length_flags? {cs run rest : List Char} (h : flags? cs = some (run, rest)) :
    rest.length ≤ cs.length := by
  unfold flags? at h
  dsimp only at h
  split at h
  · cases h; exact (List.dropWhile_sublist _).length_le
  · cases h

end NearbyBeacons.Pattern
