import NearbyBeacons.Text.Ascii
import NearbyBeacons.Toml.Layout
/-!
# Strings as TOML

A string is written in the plainest form that shows it as it is: between double quotes if
nothing in it needs an escape, else between single quotes if that is possible, else over
several lines between tripled quotes, and with escapes when every other form fails.
-/

namespace NearbyBeacons.Toml

/-- The form in which a string is written. -/
inductive StringForm where
  | basic
  | literal
  | basicLines
  | literalLines
  deriving DecidableEq, Repr

/-- What of a string decides about its form. -/
structure StringTraits where
  /-- A control character that is neither a tab nor a line feed occurs. -/
  hasControl : Bool
  /-- A backslash occurs. -/
  hasEscape : Bool
  hasNewline : Bool
  /-- The longest run of double quotes. -/
  doubleRun : Nat
  /-- The longest run of single quotes. -/
  singleRun : Nat
  deriving DecidableEq, Repr

/-- A control character that no form but the escaped ones can hold. -/
def isControl (c : Char) : Bool := c != '\t' && c != '\n' && (c.toNat < 0x20 || c.toNat == 0x7F)

/-- The longest run of `x` in a text, where `here` of them precede the text. -/
def longestRun (x : Char) (here longest : Nat) : List Char → Nat
  | [] => max here longest
  | c :: rest =>
    if c = x then longestRun x (here + 1) longest rest else longestRun x 0 (max here longest) rest

/-- The traits of a string. -/
def StringTraits.of (cs : List Char) : StringTraits where
  hasControl := cs.any isControl
  hasEscape := cs.any (· == '\\')
  hasNewline := cs.any (· == '\n')
  doubleRun := longestRun '"' 0 0 cs
  singleRun := longestRun '\'' 0 0 cs

/-- The form of a string with the given traits. -/
def StringTraits.form (t : StringTraits) : StringForm :=
  if !t.hasControl && !t.hasEscape && t.doubleRun == 0 && !t.hasNewline then .basic
  else if !t.hasControl && t.singleRun == 0 && !t.hasNewline then .literal
  else if !t.hasControl && !t.hasEscape && t.doubleRun ≤ 2 then .basicLines
  else if !t.hasControl && t.singleRun ≤ 2 then .literalLines
  else if t.hasNewline then .basicLines
  else .basic

/-- The escape of a control character or a backslash. -/
def escapeText (c : Char) : List Char :=
  match c with
  | '\x08' => ['\\', 'b']
  | '\t' => ['\\', 't']
  | '\n' => ['\\', 'n']
  | '\x0C' => ['\\', 'f']
  | '\r' => ['\\', 'r']
  | '"' => ['\\', '"']
  | '\\' => ['\\', '\\']
  | c =>
    if c.toNat < 0x20 || c.toNat == 0x7F then
      ['\\', 'u', '0', '0', Ascii.hexDigit (c.toNat / 16), Ascii.hexDigit (c.toNat % 16)]
    else [c]

/-- The characters of a string between tripled double quotes: line feeds stand for
themselves, and of a run of double quotes every third one is escaped. `run` counts the
quotes since the last escape. -/
def linesText (run : Nat) : List Char → List Char
  | [] => []
  | '\n' :: rest => '\n' :: linesText 0 rest
  | '"' :: rest =>
    if 2 ≤ run then '\\' :: '"' :: linesText 0 rest else '"' :: linesText (run + 1) rest
  | c :: rest => escapeText c ++ linesText 0 rest

/-- A line feed behind opening quotes, which is written when the string has one itself. -/
def opening (t : StringTraits) : List Char := if t.hasNewline then ['\n'] else []

/-- A string as TOML. -/
def quoted (cs : List Char) : List Char :=
  let t := StringTraits.of cs
  match t.form with
  | .basic => '"' :: cs.flatMap escapeText ++ ['"']
  | .literal => '\'' :: cs ++ ['\'']
  | .basicLines => ['"', '"', '"'] ++ opening t ++ linesText 0 cs ++ ['"', '"', '"']
  | .literalLines => ['\'', '\'', '\''] ++ opening t ++ cs ++ ['\'', '\'', '\'']

end NearbyBeacons.Toml
