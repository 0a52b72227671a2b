import NearbyBeacons.Decimal
import NearbyBeacons.LogFilter.Field
import NearbyBeacons.Settings.Layer
import NearbyBeacons.Text.Slice
/-!
# Log filters

A filter names what is logged: directives with commas between them, each a level, a
target, or a target and a level with an equals sign between them. A target may be
narrowed down by a span in brackets, with a field in braces.

Blanks around a directive are not part of its shape. The parts of a directive are found
without the blanks before it, but taken from the text with them, so that these blanks move
every part towards the start; a part that then starts or ends inside a character is a fault
of its own.

The filter of a run comes from the environment or, failing that, from the settings.
-/

namespace NearbyBeacons.LogFilter

/-! ### Levels -/

/-- The names of the levels. -/
def levelNames : List String := ["off", "error", "warn", "info", "debug", "trace"]

/-- The number of a level, with a plus sign or without: one below six. -/
def isLevelNumber (cs : List Char) : Bool :=
  ((Decimal.word? cs).filter (· < levelNames.length)).isSome

/-- What may stand in place of a level: nothing, a number, or a name in letters of either
case. -/
def isLevel (cs : List Char) : Bool :=
  cs.isEmpty || isLevelNumber cs || levelNames.any (Ascii.sameLetters · (String.ofList cs))

/-! ### Directives -/

/-- Why a text is no filter. -/
inductive Flaw where
  /-- A directive has another shape, or a part of it is not what it has to be. -/
  | malformed
  /-- A part of a directive cuts a character. -/
  | cut (c : Text.Cut)
  deriving DecidableEq, Repr

/-- Accepts what holds. -/
def require (holds : Bool) : Except Flaw Unit := if holds then .ok () else .error .malformed

/-- A character that a target may start with. -/
def startsTarget (c : Char) : Bool :=
  c == '-' || c == ':' || c == '_' || Text.isLetterOrNumber c

/-- Where in a directive a character stands. Places are counted in bytes, from the first
character that is no blank. -/
inductive Place where
  | start
  /-- In a level or a target. -/
  | word
  /-- In brackets that opened before the byte `first`. -/
  | span (first : Nat)
  /-- In braces that opened before the byte `first`. -/
  | field (first : Nat)
  /-- Behind the braces. -/
  | afterField
  /-- Behind the brackets. -/
  | afterSpan
  deriving DecidableEq, Repr

/-- The part of a directive between two places. -/
def part (directive : List Char) (first past : Nat) : Except Flaw (List Char) :=
  (Text.slice first past directive).mapError .cut

/-- Checks the level that starts at a place of a directive. -/
def checkLevel (directive : List Char) (first : Nat) : Except Flaw Unit := do
  require (isLevel (← (Text.sliceFrom first directive).mapError .cut))

/-- Checks the field between two places of a directive. -/
def checkField (directive : List Char) (first past : Nat) : Except Flaw Unit := do
  let field ← part directive first past
  require (!field.isEmpty && isField field)

/-- Checks a directive from the byte `offset` on, where the given characters are left of it
without blanks around it. -/
def checkFrom (directive : List Char) (offset : Nat) : Place → List Char → Except Flaw Unit
  | .word, [] | .afterSpan, [] => .ok ()
  | .start, [] | .span _, [] | .field _, [] | .afterField, [] => .error .malformed
  | .start, c :: rest =>
    if c = '[' then checkFrom directive (offset + 1) (.span (offset + 1)) rest
    else if startsTarget c then checkFrom directive (offset + c.utf8Size) .word rest
    else .error .malformed
  | .word, c :: rest => do
    if c = '=' then
      let _target ← part directive 0 offset
      checkLevel directive (offset + 1)
    else if c = '[' then
      let _target ← part directive 0 offset
      checkFrom directive (offset + 1) (.span (offset + 1)) rest
    else checkFrom directive (offset + c.utf8Size) .word rest
  | .span first, c :: rest => do
    if c = ']' then
      let _span ← part directive first offset
      checkFrom directive (offset + 1) .afterSpan rest
    else if c = '\x7B' then
      let _span ← part directive first offset
      checkFrom directive (offset + 1) (.field (offset + 1)) rest
    else checkFrom directive (offset + c.utf8Size) (.span first) rest
  | .field first, c :: rest => do
    if c = '\x7D' then
      checkField directive first offset
      checkFrom directive (offset + 1) .afterField rest
    else checkFrom directive (offset + c.utf8Size) (.field first) rest
  | .afterField, c :: rest =>
    if c = ']' then checkFrom directive (offset + 1) .afterSpan rest else .error .malformed
  | .afterSpan, c :: _ =>
    if c = '=' then checkLevel directive (offset + 1) else .error .malformed

/-- Checks a directive. -/
def checkDirective (directive : List Char) : Except Flaw Unit :=
  checkFrom directive 0 .start (Text.trim directive)

/-- Checks a filter, up to its first flaw. Nothing between two commas is no directive. -/
def check (filter : String) : Except Flaw Unit :=
  ((filter.toList.splitOn ',').filter (!·.isEmpty)).forM checkDirective

/-! ### The filter of a run -/

/-- The variable that every program of this kind takes its filter from. -/
def sharedVariable : String := "RUST_LOG"

/-- The variable that holds the filter of this program. -/
def ownVariable : String := "LOCATOR_LOG_LEVEL"

/-- The filter that a run falls back to. -/
def fallback (env : Environment) (level : String) : String :=
  (env.lookup ownVariable).getD level

/-- The filter of a run with the configured level: that of the shared variable, and the one
to fall back to when that is missing or malformed. A cut is never passed over. -/
def choose (env : Environment) (level : String) : Except Flaw String :=
  let other := fallback env level
  match env.lookup sharedVariable with
  | none => (check other).map fun _ => other
  | some filter =>
    match check filter with
    | .ok () => .ok filter
    | .error .malformed => (check other).map fun _ => other
    | .error (.cut c) => .error (.cut c)

end NearbyBeacons.LogFilter
