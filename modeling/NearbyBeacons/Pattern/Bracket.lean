import NearbyBeacons.Pattern.Escape
/-!
# Classes of a pattern

A class in brackets names a set of characters: single ones, ranges, named sets and other
classes, joined or combined by an operator of two equal characters. It is read item by
item with the brackets that are open kept at hand, the innermost first.
-/

namespace NearbyBeacons.Pattern

/-! ### Depth -/

/-- Things in a row: how many there are, and how deep the deepest of them nests. -/
structure Siblings where
  count : Nat := 0
  depth : Nat := 0
  deriving DecidableEq, Repr

/-- One more thing that nests so deep. -/
def Siblings.add (s : Siblings) (depth : Nat) : Siblings := ⟨s.count + 1, max s.depth depth⟩

/-- How deep a row nests: a row of one thing is that thing. -/
def Siblings.height (s : Siblings) : Nat := if s.count ≤ 1 then s.depth else s.depth + 1

/-- An open bracket. -/
structure Bracket where
  /-- How deep what stands before the last operator nests. -/
  left : Option Nat := none
  /-- The items since then. -/
  items : Siblings := {}
  deriving DecidableEq, Repr

namespace Bracket

/-- One more item. -/
def add (b : Bracket) (depth : Nat) : Bracket := { b with items := b.items.add depth }

/-- How deep the inside of the brackets nests. -/
def height (b : Bracket) : Nat :=
  match b.left with
  | none => b.items.height
  | some left => max left b.items.height + 1

/-- The bracket after an operator. -/
def operate (b : Bracket) : Bracket := { left := some b.height }

end Bracket

/-! ### Items -/

/-- The hyphens that `cs` starts with, each after blanks, and what follows them. -/
def hyphens (m : Mode) : (fuel : Nat) → Siblings → List Char → Siblings × List Char
  | 0, items, cs => (items, cs)
  | fuel + 1, items, cs =>
    match m.skip cs with
    | '-' :: rest => hyphens m fuel (items.add 0) rest
    | cs => (items, cs)

theorem length_hyphens (m : Mode) (fuel : Nat) (items : Siblings) (cs : List Char) :
    (hyphens m fuel items cs).2.length ≤ cs.length := by
  induction fuel generalizing items cs with
  | zero => exact Nat.le_refl _
  | succ fuel ih =>
    have hl := m.length_skip_le cs
    unfold hyphens
    split
    · next rest hs =>
      rw [hs, List.length_cons] at hl
      exact Nat.le_trans (ih _ rest) (by omega)
    · exact hl

/-- Whether `cs` starts with the caret that leaves out what follows, and what follows it. -/
def caret (cs : List Char) : Bool × List Char :=
  match cs with
  | '^' :: rest => (true, rest)
  | cs => (false, cs)

theorem length_caret_le (cs : List Char) : (caret cs).2.length ≤ cs.length := by
  unfold caret
  split
  · exact Nat.le_succ _
  · exact Nat.le_refl _

/-- The bracket that opens before `cs`, and what follows its start: a caret, hyphens, and
without them a closing bracket that stands for itself. Without characters nothing can be
left out, as the rest would not be ASCII. -/
def openBracket? (m : Mode) (cs : List Char) : Option (Bracket × List Char) :=
  let start := caret (m.skip cs)
  if start.1 && !m.unicode then none
  else
    match hyphens m start.2.length {} start.2 with
    | (⟨0, _⟩, ']' :: rest) => some ({ items := ⟨1, 0⟩ }, rest)
    | (items, rest) => some ({ items }, rest)

theorem length_openBracket? {m : Mode} {cs rest : List Char} {b : Bracket}
    (h : openBracket? m cs = some (b, rest)) : rest.length ≤ cs.length := by
  have hl := Nat.le_trans (length_caret_le (m.skip cs)) (m.length_skip_le cs)
  have hy := length_hyphens m (caret (m.skip cs)).2.length {} (caret (m.skip cs)).2
  unfold openBracket? at h
  dsimp only at h
  split at h
  · cases h
  · split at h
    · next hh => rw [hh] at hy; cases h; simp only [List.length_cons] at hy; omega
    · next hh => rw [hh] at hy; cases h; exact Nat.le_trans hy hl

/-- The names of sets of ASCII characters. -/
def setNames : List String :=
  ["alnum", "alpha", "ascii", "blank", "cntrl", "digit", "graph", "lower", "print", "punct",
   "space", "upper", "word", "xdigit"]

/-- The named set that `cs`, which follows a bracket, starts with: whether it is left out,
and what follows it. -/
def namedSet? (cs : List Char) : Option (Bool × List Char) :=
  match cs with
  | ':' :: rest =>
    let name := (caret rest).2
    match name.dropWhile (· != ':') with
    | ':' :: ']' :: after =>
      if setNames.contains (String.ofList (name.takeWhile (· != ':'))) then
        some ((caret rest).1, after)
      else none
    | _ => none
  | _ => none

theorem length_namedSet? {cs rest : List Char} {negated : Bool}
    (h : namedSet? cs = some (negated, rest)) : rest.length ≤ cs.length := by
  unfold namedSet? at h
  split at h
  · next after =>
    dsimp only at h
    split at h
    · next hd =>
      have hc := length_caret_le after
      have hl := (List.dropWhile_sublist (l := (caret after).2) (· != ':')).length_le
      rw [hd] at hl
      simp only [List.length_cons] at hl ⊢
      split at h
      · cases h; omega
      · cases h
    · cases h
  · cases h

/-- A character or an escape in a class. -/
def member? (m : Mode) : List Char → Option (Atom × List Char)
  | [] => none
  | '\\' :: rest => escape? m rest
  | c :: rest => some (.literal c, rest)

theorem length_member? {m : Mode} {cs rest : List Char} {a : Atom}
    (h : member? m cs = some (a, rest)) : rest.length < cs.length := by
  unfold member? at h
  split at h
  · cases h
  · exact Nat.lt_succ_of_lt (length_escape? h)
  · cases h; exact Nat.lt_succ_self _

/-- What may be in a class. -/
def Mode.admits (m : Mode) : Atom → Bool
  | .literal c => m.unicode || c.toNat < 128
  | .set => true
  | .place => false

/-- Whether two atoms are the ends of a range. -/
def Mode.admitsRange (m : Mode) : Atom → Atom → Bool
  | .literal low, .literal high =>
    low.toNat ≤ high.toNat && m.admits (.literal low) && m.admits (.literal high)
  | _, _ => false

/-- What follows the single item, or the range, that `cs` starts with. -/
def item? (m : Mode) (cs : List Char) : Option (List Char) :=
  match member? m cs with
  | none => none
  | some (first, rest) =>
    let single := if m.admits first then some (m.skip rest) else none
    match m.skip rest with
    | '-' :: after =>
      if m.ahead? after ∈ [some ']', some '-'] then single
      else match member? m (m.skip after) with
        | some (last, rest) => if m.admitsRange first last then some rest else none
        | none => none
    | _ => single

/-- An item takes at least one character. -/
theorem length_item? {m : Mode} {cs rest : List Char} (h : item? m cs = some rest) :
    rest.length < cs.length := by
  unfold item? at h
  split at h
  · cases h
  · next first mid hm =>
    have hmid := length_member? hm
    have hskip := m.length_skip_le mid
    have single {r : List Char}
        (hs : (if m.admits first then some (m.skip mid) else none) = some r) :
        r.length < cs.length := by
      split at hs
      · cases hs; omega
      · cases hs
    dsimp only at h
    split at h
    · next after ha =>
      rw [ha, List.length_cons] at hskip
      split at h
      · exact single h
      · split at h
        · next hl =>
          have := length_member? hl
          have := m.length_skip_le after
          split at h
          · cases h; omega
          · cases h
        · cases h
    · exact single h

/-- The open brackets after the next item, and what follows it. When the last one closes,
there is the depth of the class in their place. -/
def bracketStep? (m : Mode) (here : Bracket) (outer : List Bracket) (cs : List Char) :
    Option ((Nat ⊕ (Bracket × List Bracket)) × List Char) :=
  match cs with
  | '[' :: rest =>
    match namedSet? rest with
    | some (negated, rest) =>
      if negated && !m.unicode then none else some (.inr (here.add 0, outer), rest)
    | none => (openBracket? m rest).map fun (b, rest) => (.inr (b, here :: outer), rest)
  | ']' :: rest =>
    match outer with
    | [] => some (.inl (here.height + 1), rest)
    | up :: outer => some (.inr (up.add (here.height + 1), outer), rest)
  | '&' :: '&' :: rest | '-' :: '-' :: rest | '~' :: '~' :: rest =>
    some (.inr (here.operate, outer), rest)
  | cs => (item? m cs).map fun rest => (.inr (here.add 0, outer), rest)

theorem length_bracketStep? {m : Mode} {here : Bracket} {outer : List Bracket}
    {cs rest : List Char} {r : Nat ⊕ (Bracket × List Bracket)}
    (h : bracketStep? m here outer cs = some (r, rest)) : rest.length < cs.length := by
  unfold bracketStep? at h
  split at h
  · rw [List.length_cons, Nat.lt_succ_iff]
    split at h
    · next hn =>
      split at h
      · cases h
      · cases h; exact length_namedSet? hn
    · obtain ⟨_, ho, he⟩ := Option.map_eq_some_iff.mp h
      cases he
      exact length_openBracket? ho
  · split at h <;> (cases h; exact Nat.lt_succ_self _)
  · cases h; simp only [List.length_cons]; omega
  · cases h; simp only [List.length_cons]; omega
  · cases h; simp only [List.length_cons]; omega
  · obtain ⟨_, hi, he⟩ := Option.map_eq_some_iff.mp h
    cases he
    exact length_item? hi

end NearbyBeacons.Pattern
