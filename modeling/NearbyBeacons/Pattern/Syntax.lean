import NearbyBeacons.Pattern.Bracket
import NearbyBeacons.Text.Letter
/-!
# Patterns

A pattern describes texts: characters, classes and groups, repeated, in a row, and one row
or another. Whether a text is a pattern is decided item by item. Of what has been read only
its shape is kept: the groups and brackets that are open, the names of groups, and how deep
things nest, which is limited.

A pattern stands between braces itself, so that no brace opened in it is ever closed:
repetitions with a count, and escapes with braces, are never complete.
-/

namespace NearbyBeacons.Pattern

/-! ### Names of groups -/

/-- A character that the name of a group may start with. -/
def startsGroupName (c : Char) : Bool := c == '_' || Text.isLetter c

/-- A character of the name of a group. -/
def isGroupNameChar (c : Char) : Bool :=
  c == '_' || c == '.' || c == '[' || c == ']' || Text.isLetterOrNumber c

/-- Whether a group may have this name. -/
def isGroupName (name : List Char) : Bool :=
  name.head?.any startsGroupName && name.all isGroupNameChar

/-! ### What has been read -/

/-- A group that is open, or the whole pattern. -/
structure Level where
  mode : Mode := {}
  /-- The rows before the current one. -/
  earlier : Siblings := {}
  /-- The items of the current row. -/
  items : Siblings := {}
  /-- How deep the last item of the row nests, if it can be repeated. -/
  last : Option Nat := none
  deriving DecidableEq, Repr

namespace Level

/-- One more item. -/
def add (l : Level) (depth : Nat) : Level :=
  { l with items := l.items.add depth, last := some depth }

/-- One more item that sets flags for what follows it. -/
def setFlags (l : Level) (run : List Char) : Level :=
  { l with items := l.items.add 0, last := none, mode := l.mode.switch run }

/-- The last item repeated, if there is one that can be. -/
def repeat? (l : Level) : Option Level :=
  l.last.map fun depth =>
    { l with items := ⟨l.items.count, max l.items.depth (depth + 1)⟩, last := some (depth + 1) }

/-- The rows up to the current one. -/
def rows (l : Level) : Siblings := l.earlier.add l.items.height

/-- The start of another row. -/
def branch (l : Level) : Level := { l with earlier := l.rows, items := {}, last := none }

/-- How deep all of it nests. -/
def height (l : Level) : Nat := l.rows.height

end Level

/-- What has been read of a pattern. -/
structure Draft where
  /-- The names of groups. -/
  names : List (List Char) := []
  /-- The group that items are added to. -/
  here : Level := {}
  /-- The groups around it, the innermost first. -/
  outer : List Level := []
  /-- The brackets of the class that is being read, the innermost first. -/
  brackets : List Bracket := []

namespace Draft

/-- One more item. -/
def add (d : Draft) (depth : Nat) : Draft := { d with here := d.here.add depth }

/-- A group opened, in which patterns are read in the given mode. -/
def openGroup (d : Draft) (mode : Mode) : Draft :=
  { d with here := { mode }, outer := d.here :: d.outer }

/-- The innermost group closed. -/
def closeGroup? (d : Draft) : Option Draft :=
  match d.outer with
  | [] => none
  | up :: outer => some { d with here := up.add (d.here.height + 1), outer }

/-! ### Groups -/

/-- A group opened whose name `cs` starts with. No two groups have one name. -/
def openNamed? (d : Draft) (cs : List Char) : Option (Draft × List Char) :=
  let name := cs.takeWhile (· != '>')
  match cs.dropWhile (· != '>') with
  | _ :: rest =>
    if isGroupName name && !d.names.contains name then
      some ({ d with names := name :: d.names }.openGroup d.here.mode, rest)
    else none
  | [] => none

theorem length_openNamed? {d d' : Draft} {cs rest : List Char}
    (h : d.openNamed? cs = some (d', rest)) : rest.length ≤ cs.length := by
  unfold openNamed? at h
  dsimp only at h
  split at h
  · next hd =>
    have hl := (List.dropWhile_sublist (l := cs) (· != '>')).length_le
    rw [hd, List.length_cons] at hl
    split at h
    · cases h; omega
    · cases h
  · cases h

/-- The flags that `cs` starts with: set for the rest of the group, or for a group of their
own when a colon follows them. -/
def flagged? (d : Draft) (cs : List Char) : Option (Draft × List Char) :=
  match flags? cs with
  | some (run, ':' :: rest) => some (d.openGroup (d.here.mode.switch run), rest)
  | some (run, ')' :: rest) =>
    if run.isEmpty then none else some ({ d with here := d.here.setFlags run }, rest)
  | _ => none

theorem length_flagged? {d d' : Draft} {cs rest : List Char}
    (h : d.flagged? cs = some (d', rest)) : rest.length ≤ cs.length := by
  unfold flagged? at h
  split at h
  · next hf =>
    have := length_flags? hf
    rw [List.length_cons] at this
    cases h
    omega
  · next hf =>
    have := length_flags? hf
    rw [List.length_cons] at this
    split at h
    · cases h
    · cases h; omega
  · cases h

/-- The group, or the flags, that `cs` starts with, after a parenthesis. -/
def parenthesis? (d : Draft) (cs : List Char) : Option (Draft × List Char) :=
  match d.here.mode.skip cs with
  | '?' :: 'P' :: '<' :: rest | '?' :: '<' :: rest => d.openNamed? rest
  | '?' :: rest => d.flagged? rest
  | rest => some (d.openGroup d.here.mode, rest)

theorem length_parenthesis? {d d' : Draft} {cs rest : List Char}
    (h : d.parenthesis? cs = some (d', rest)) : rest.length ≤ cs.length := by
  have hl := d.here.mode.length_skip_le cs
  unfold parenthesis? at h
  split at h
  · next hs =>
    have := length_openNamed? h
    rw [hs] at hl
    simp only [List.length_cons] at hl
    omega
  · next hs =>
    have := length_openNamed? h
    rw [hs] at hl
    simp only [List.length_cons] at hl
    omega
  · next hs =>
    have := length_flagged? h
    rw [hs, List.length_cons] at hl
    omega
  · cases h
    exact hl

/-! ### Items -/

/-- `cs` without the mark that a repetition takes as little as possible. -/
def skipLazy : List Char → List Char
  | '?' :: rest => rest
  | cs => cs

theorem length_skipLazy_le (cs : List Char) : (skipLazy cs).length ≤ cs.length := by
  unfold skipLazy
  split
  · exact Nat.le_succ _
  · exact Nat.le_refl _

/-- The next item outside of classes, and what follows it. -/
def itemStep? (d : Draft) : List Char → Option (Draft × List Char)
  | [] => none
  | '(' :: rest => d.parenthesis? rest
  | ')' :: rest => d.closeGroup?.map (·, rest)
  | '|' :: rest => some ({ d with here := d.here.branch }, rest)
  | '[' :: rest => (openBracket? d.here.mode rest).map fun (b, rest) =>
      ({ d with brackets := [b] }, rest)
  | '?' :: rest | '*' :: rest | '+' :: rest => d.here.repeat?.map fun here =>
      ({ d with here }, skipLazy rest)
  | '\x7B' :: _ => none
  | '\\' :: rest => (escape? d.here.mode rest).map fun (_, rest) => (d.add 0, rest)
  | '.' :: rest => if d.here.mode.unicode then some (d.add 0, rest) else none
  | _ :: rest => some (d.add 0, rest)

theorem length_itemStep? {d d' : Draft} {cs rest : List Char}
    (h : d.itemStep? cs = some (d', rest)) : rest.length < cs.length := by
  unfold itemStep? at h
  split at h
  case h_1 => cases h
  all_goals rw [List.length_cons, Nat.lt_succ_iff]
  case h_2 => exact length_parenthesis? h
  case h_3 =>
    obtain ⟨_, -, he⟩ := Option.map_eq_some_iff.mp h
    cases he
    exact Nat.le_refl _
  case h_4 => cases h; exact Nat.le_refl _
  case h_5 =>
    obtain ⟨_, ho, he⟩ := Option.map_eq_some_iff.mp h
    cases he
    exact length_openBracket? ho
  case h_6 | h_7 | h_8 =>
    obtain ⟨_, -, he⟩ := Option.map_eq_some_iff.mp h
    cases he
    exact length_skipLazy_le _
  case h_9 => cases h
  case h_10 =>
    obtain ⟨_, hx, he⟩ := Option.map_eq_some_iff.mp h
    cases he
    exact Nat.le_of_lt (length_escape? hx)
  case h_11 =>
    split at h
    · cases h; exact Nat.le_refl _
    · cases h
  case h_12 => cases h; exact Nat.le_refl _

/-- The next item, in a class or outside, and what follows it. -/
def step? (d : Draft) (cs : List Char) : Option (Draft × List Char) :=
  match d.brackets with
  | [] => d.itemStep? cs
  | here :: outer =>
    match bracketStep? d.here.mode here outer cs with
    | some (.inl depth, rest) => some ({ d with brackets := [] }.add depth, rest)
    | some (.inr (here, outer), rest) => some ({ d with brackets := here :: outer }, rest)
    | none => none

/-- Every step takes at least one character. -/
theorem length_step? {d d' : Draft} {cs rest : List Char} (h : d.step? cs = some (d', rest)) :
    rest.length < cs.length := by
  unfold step? at h
  split at h
  · exact length_itemStep? h
  · split at h
    · next hb => cases h; exact length_bracketStep? hb
    · next hb => cases h; exact length_bracketStep? hb
    · cases h

/-- How deep a pattern may nest. -/
def depthLimit : Nat := 250

/-- Whether nothing is left open. -/
def isComplete (d : Draft) : Bool :=
  d.brackets.isEmpty && d.outer.isEmpty && d.here.height ≤ depthLimit

/-- Whether `cs` completes a pattern. -/
def completedBy (d : Draft) (cs : List Char) : Bool :=
  match _h : d.here.mode.skip cs with
  | [] => d.isComplete
  | c :: start =>
    match _h' : d.step? (c :: start) with
    | some (next, rest) => completedBy next rest
    | none => false
termination_by cs.length
decreasing_by
  have := length_step? _h'
  have := d.here.mode.length_skip_le cs
  rw [_h] at this
  omega

end Draft

/-- Whether a text is a pattern. -/
def isPattern (cs : List Char) : Bool := Draft.completedBy {} cs

end NearbyBeacons.Pattern
