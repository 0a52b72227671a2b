import NearbyBeacons.Pattern.Mode
import NearbyBeacons.Text.Ascii
/-!
# Escapes in a pattern

A backslash gives a letter a meaning and takes the meaning from any other ASCII character.
There are no references back to a group, and the edges of words are only known for bytes.
-/

namespace NearbyBeacons.Pattern

/-- What a character or an escape stands for. -/
inductive Atom where
  /-- One character. -/
  | literal (c : Char)
  /-- One of several characters. -/
  | set
  /-- A place between characters. -/
  | place
  deriving DecidableEq, Repr

/-- The number that `count` hexadecimal digits write after those that write `n`, and what
follows them. -/
def hexRun? (m : Mode) : (count n : Nat) → List Char → Option (Nat × List Char)
  | 0, n, cs => some (n, cs)
  | count + 1, n, cs =>
    match m.skip cs with
    | [] => none
    | c :: rest => (Ascii.hexValue? c).bind fun d => hexRun? m count (16 * n + d) rest

theorem length_hexRun? {m : Mode} {count n n' : Nat} {cs rest : List Char}
    (h : hexRun? m count n cs = some (n', rest)) : rest.length ≤ cs.length := by
  induction count generalizing n cs with
  | zero => cases h; exact Nat.le_refl _
  | succ count ih =>
    unfold hexRun? at h
    split at h
    · cases h
    · next c after hs =>
      obtain ⟨d, -, hd⟩ := Option.bind_eq_some_iff.mp h
      have := ih hd
      have := m.length_skip_le cs
      rw [hs, List.length_cons] at this
      omega

/-- The character with a code point of `count` hexadecimal digits. Without characters, two
digits name a byte, which has to be an ASCII character. -/
def numbered? (m : Mode) (count : Nat) (cs : List Char) : Option (Atom × List Char) :=
  match hexRun? m count 0 cs with
  | none => none
  | some (n, rest) =>
    if n.isValidChar && (m.unicode || count != 2 || n < 128) then
      some (.literal (Char.ofNat n), rest)
    else none

theorem length_numbered? {m : Mode} {count : Nat} {cs rest : List Char} {a : Atom}
    (h : numbered? m count cs = some (a, rest)) : rest.length ≤ cs.length := by
  unfold numbered? at h
  split at h
  · cases h
  · next hr =>
    split at h
    · cases h; exact length_hexRun? hr
    · cases h

/-- The categories of characters that one letter names. -/
def categoryLetters : List Char := ['c', 'l', 'm', 'n', 'p', 's', 'z']

/-- The category that a letter names, after blanks. -/
def category? (m : Mode) (cs : List Char) : Option (Atom × List Char) :=
  match m.skip cs with
  | [] => none
  | c :: rest =>
    if m.unicode && categoryLetters.contains c.toLower then some (.set, rest) else none

theorem length_category? {m : Mode} {cs rest : List Char} {a : Atom}
    (h : category? m cs = some (a, rest)) : rest.length ≤ cs.length := by
  unfold category? at h
  split at h
  · cases h
  · next hs =>
    have := m.length_skip_le cs
    rw [hs, List.length_cons] at this
    split at h
    · cases h; omega
    · cases h

/-- The character that a letter other than those of `escape?` stands for. -/
def controlNamed? : Char → Option Char
  | 'a' => some '\x07'
  | 'f' => some '\x0C'
  | 't' => some '\t'
  | 'n' => some '\n'
  | 'r' => some '\r'
  | 'v' => some '\x0B'
  | _ => none

/-- A character that a backslash takes the meaning from. -/
def isPlainEscape (c : Char) : Bool := c.toNat < 128 && !c.isAlphanum && c != '<' && c != '>'

/-- What an escape of one character stands for. -/
def shortEscape? (m : Mode) (c : Char) : Option Atom :=
  if c ∈ ['d', 's', 'w'] then some .set
  else if c ∈ ['D', 'S', 'W'] then (if m.unicode then some .set else none)
  else if c ∈ ['A', 'z'] then some .place
  else if c ∈ ['b', 'B', '<', '>'] then (if m.unicode then none else some .place)
  else if isPlainEscape c then some (.literal c)
  else (controlNamed? c).map .literal

/-- What `cs`, which follows a backslash, stands for, and what follows it. -/
def escape? (m : Mode) : List Char → Option (Atom × List Char)
  | [] => none
  | c :: rest =>
    if c = 'x' then numbered? m 2 rest
    else if c = 'u' then numbered? m 4 rest
    else if c = 'U' then numbered? m 8 rest
    else if c ∈ ['p', 'P'] then category? m rest
    else (shortEscape? m c).map (·, rest)

/-- An escape takes at least one character. -/
theorem length_escape? {m : Mode} {cs rest : List Char} {a : Atom}
    (h : escape? m cs = some (a, rest)) : rest.length < cs.length := by
  unfold escape? at h
  split at h
  · cases h
  · rw [List.length_cons, Nat.lt_succ_iff]
    split at h
    · exact length_numbered? h
    split at h
    · exact length_numbered? h
    split at h
    · exact length_numbered? h
    split at h
    · exact length_category? h
    · obtain ⟨_, -, he⟩ := Option.map_eq_some_iff.mp h
      cases he
      exact Nat.le_refl _

end NearbyBeacons.Pattern
