import NearbyBeacons.Text.Ascii
import NearbyBeacons.Toml.Layout
/-!
# Strings of a TOML text

There are four forms. Basic strings, in double quotes, have escapes; literal strings, in
single quotes, have none. Both may be written over several lines between tripled
quotes, where a line end right behind the opening quotes is not part of the string, and
one or two quotes are.

Every step takes the characters that are left and returns what it read together with
what is left after it.
-/

namespace NearbyBeacons.Toml

/-! ### Escapes -/

/-- The character that `digits` hexadecimal digits name. -/
def codePoint? (digits : Nat) (cs : List Char) : Option (Char × List Char) :=
  let run := cs.take digits
  if run.length = digits then
    match Ascii.hexNumber? run with
    | some n => if n.isValidChar then some (Char.ofNat n, cs.drop digits) else none
    | none => none
  else none

/-- The character of an escape, after its backslash. -/
def escape? : List Char → Option (Char × List Char)
  | 'b' :: rest => some ('\x08', rest)
  | 't' :: rest => some ('\t', rest)
  | 'n' :: rest => some ('\n', rest)
  | 'f' :: rest => some ('\x0C', rest)
  | 'r' :: rest => some ('\r', rest)
  | '"' :: rest => some ('"', rest)
  | '\\' :: rest => some ('\\', rest)
  | 'u' :: rest => codePoint? 4 rest
  | 'U' :: rest => codePoint? 8 rest
  | _ => none

theorem length_codePoint? {digits : Nat} {cs rest : List Char} {c : Char}
    (h : codePoint? digits cs = some (c, rest)) : rest.length ≤ cs.length := by
  simp only [codePoint?] at h
  split at h
  · split at h
    · split at h
      · cases h; simp
      · cases h
    · cases h
  · cases h

/-- An escape takes at least one character. -/
theorem length_escape? {cs rest : List Char} {c : Char} (h : escape? cs = some (c, rest)) :
    rest.length < cs.length := by
  unfold escape? at h
  split at h
  case h_8 => have := length_codePoint? h; simp only [List.length_cons]; omega
  case h_9 => have := length_codePoint? h; simp only [List.length_cons]; omega
  case h_10 => cases h
  all_goals (cases h; simp)

/-- What follows a backslash at the end of a line: the next line that is not blank. -/
def joinedLine? (cs : List Char) : Option (List Char) :=
  (lineEnd? (skipSpaces cs)).map skipBlankLines

theorem length_lineEnd? {cs rest : List Char} (h : lineEnd? cs = some rest) :
    rest.length < cs.length := by
  unfold lineEnd? at h
  split at h <;> cases h <;> simp only [List.length_cons] <;> omega

theorem length_skipSpaces (cs : List Char) : (skipSpaces cs).length ≤ cs.length :=
  (List.dropWhile_sublist isSpace).length_le

theorem length_skipBlankLines (cs : List Char) : (skipBlankLines cs).length ≤ cs.length := by
  fun_induction skipBlankLines cs <;> simp_all <;> omega

theorem length_joinedLine? {cs rest : List Char} (h : joinedLine? cs = some rest) :
    rest.length < cs.length := by
  obtain ⟨r, hr, rfl⟩ := Option.map_eq_some_iff.1 h
  have := length_lineEnd? hr
  have := length_skipSpaces cs
  have := length_skipBlankLines r
  omega

/-! ### Basic strings -/

/-- A basic string on one line, after its opening quote. `done` holds the characters so
far, the last first. -/
def basicFrom (done : List Char) (cs : List Char) : Option (List Char × List Char) :=
  match cs with
  | [] => none
  | '"' :: rest => some (done.reverse, rest)
  | '\\' :: rest =>
    match _h : escape? rest with
    | some (c, rest) => basicFrom (c :: done) rest
    | none => none
  | c :: rest => if isLineChar c then basicFrom (c :: done) rest else none
termination_by cs.length
decreasing_by
  · have := length_escape? _h; simp only [List.length_cons]; omega
  · simp

/-- A basic string over several lines, after its opening quotes. -/
def basicLinesFrom (done : List Char) (cs : List Char) : Option (List Char × List Char) :=
  match cs with
  | [] => none
  | '"' :: '"' :: '"' :: '"' :: '"' :: rest => some (('"' :: '"' :: done).reverse, rest)
  | '"' :: '"' :: '"' :: '"' :: rest => some (('"' :: done).reverse, rest)
  | '"' :: '"' :: '"' :: rest => some (done.reverse, rest)
  | '\n' :: rest => basicLinesFrom ('\n' :: done) rest
  | '\r' :: '\n' :: rest => basicLinesFrom ('\n' :: done) rest
  | '\\' :: rest =>
    match _h : joinedLine? rest with
    | some rest => basicLinesFrom done rest
    | none =>
      match _h' : escape? rest with
      | some (c, rest) => basicLinesFrom (c :: done) rest
      | none => none
  | c :: rest => if isLineChar c then basicLinesFrom (c :: done) rest else none
termination_by cs.length
decreasing_by
  · simp
  · simp only [List.length_cons]; omega
  · have := length_joinedLine? _h; simp only [List.length_cons]; omega
  · have := length_escape? _h'; simp only [List.length_cons]; omega
  · simp

/-! ### Literal strings -/

/-- A literal string on one line, after its opening quote. -/
def literalFrom (done : List Char) : List Char → Option (List Char × List Char)
  | [] => none
  | '\'' :: rest => some (done.reverse, rest)
  | c :: rest => if isLineChar c then literalFrom (c :: done) rest else none

/-- A literal string over several lines, after its opening quotes. -/
def literalLinesFrom (done : List Char) : List Char → Option (List Char × List Char)
  | [] => none
  | '\'' :: '\'' :: '\'' :: '\'' :: '\'' :: rest => some (('\'' :: '\'' :: done).reverse, rest)
  | '\'' :: '\'' :: '\'' :: '\'' :: rest => some (('\'' :: done).reverse, rest)
  | '\'' :: '\'' :: '\'' :: rest => some (done.reverse, rest)
  | '\n' :: rest => literalLinesFrom ('\n' :: done) rest
  | '\r' :: '\n' :: rest => literalLinesFrom ('\n' :: done) rest
  | c :: rest => if isLineChar c then literalLinesFrom (c :: done) rest else none

/-! ### Any form -/

/-- `cs` without a line end at its start. -/
def skipLineEnd (cs : List Char) : List Char := (lineEnd? cs).getD cs

/-- A string on one line, as keys are quoted. -/
def shortText? : List Char → Option (List Char × List Char)
  | '"' :: rest => basicFrom [] rest
  | '\'' :: rest => literalFrom [] rest
  | _ => none

/-- A string of any form. -/
def text? : List Char → Option (List Char × List Char)
  | '"' :: '"' :: '"' :: rest => basicLinesFrom [] (skipLineEnd rest)
  | '\'' :: '\'' :: '\'' :: rest => literalLinesFrom [] (skipLineEnd rest)
  | cs => shortText? cs

end NearbyBeacons.Toml
