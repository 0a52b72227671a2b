import NearbyBeacons.Binary64.Basic
import NearbyBeacons.Decimal
import NearbyBeacons.Text.Ascii
/-!
# Tokens of a JSON text

A text is cut into tokens from left to right. Blanks between tokens leave no trace,
so that the layout of a text matters to this step alone. Where the text goes wrong
the tokens end in `stray`, and what follows is not looked at: whoever reads the
tokens in order meets every earlier token first.
-/

namespace NearbyBeacons.Json

/-- A number as it is written. -/
structure Numeral where
  negative : Bool
  /-- The digits before the point, without a leading zero unless it is the only one. -/
  whole : List Char
  /-- The digits after the point, empty without a point. -/
  fraction : List Char
  /-- The power of ten behind `e`, if one is written. -/
  exponent : Option Int
  deriving DecidableEq, Repr

/-- A token. -/
inductive Token where
  | openBracket
  | closeBracket
  | openBrace
  | closeBrace
  | comma
  | colon
  | null
  | bool (b : Bool)
  | number (n : Numeral)
  /-- A string; `none` when its escapes name half of a surrogate pair, which is no
  character. Such a string is well formed, but no text can be read from it. -/
  | string (s : Option String)
  /-- A character that starts no token, or a token that is cut short or malformed. -/
  | stray
  deriving DecidableEq, Repr

/-! ### Strings -/

/-- What one character or escape of a string contributes. -/
inductive Part where
  | char (c : Char)
  /-- Half of a surrogate pair without its other half. -/
  | half
  deriving DecidableEq, Repr

/-- The code unit that four hexadecimal digits name. -/
def codeUnit? (a b c d : Char) : Option Nat := Ascii.hexNumber? [a, b, c, d]

/-- The low surrogate that an escape at the start of `cs` names. -/
def lowSurrogate? : List Char → Option (Nat × List Char)
  | '\\' :: 'u' :: a :: b :: c :: d :: rest =>
    match codeUnit? a b c d with
    | some n => if 0xDC00 ≤ n ∧ n < 0xE000 then some (n, rest) else none
    | none => none
  | _ => none

/-- What the code unit `n` contributes before `rest`: a high surrogate takes the low
one that follows it. -/
def unitPart (n : Nat) (rest : List Char) : Part × List Char :=
  if 0xD800 ≤ n ∧ n < 0xDC00 then
    match lowSurrogate? rest with
    | some (low, rest) =>
      (.char (Char.ofNat (0x10000 + (n - 0xD800) * 0x400 + (low - 0xDC00))), rest)
    | none => (.half, rest)
  else if 0xDC00 ≤ n ∧ n < 0xE000 then (.half, rest)
  else (.char (Char.ofNat n), rest)

/-- The part that `cs` starts with, and what follows it. Control characters have to be
escaped, and only nine escapes exist. -/
def part? : List Char → Option (Part × List Char)
  | '\\' :: '"' :: rest => some (.char '"', rest)
  | '\\' :: '\\' :: rest => some (.char '\\', rest)
  | '\\' :: '/' :: rest => some (.char '/', rest)
  | '\\' :: 'b' :: rest => some (.char '\x08', rest)
  | '\\' :: 'f' :: rest => some (.char '\x0C', rest)
  | '\\' :: 'n' :: rest => some (.char '\n', rest)
  | '\\' :: 'r' :: rest => some (.char '\r', rest)
  | '\\' :: 't' :: rest => some (.char '\t', rest)
  | '\\' :: 'u' :: a :: b :: c :: d :: rest =>
    (codeUnit? a b c d).map fun n => unitPart n rest
  | '\\' :: _ => none
  | '"' :: _ => none
  | c :: rest => if c.toNat < 0x20 then none else some (.char c, rest)
  | [] => none

theorem length_lowSurrogate? {cs rest : List Char} {n : Nat}
    (h : lowSurrogate? cs = some (n, rest)) : rest.length < cs.length := by
  unfold lowSurrogate? at h
  split at h
  · split at h
    · split at h
      · cases h; simp only [List.length_cons]; omega
      · cases h
    · cases h
  · cases h

theorem length_unitPart (n : Nat) (rest : List Char) :
    (unitPart n rest).2.length ≤ rest.length := by
  unfold unitPart
  split
  · split
    · next h => exact Nat.le_of_lt (length_lowSurrogate? h)
    · exact Nat.le_refl _
  · split <;> exact Nat.le_refl _

/-- A part takes at least one character. -/
theorem length_part? {cs rest : List Char} {p : Part} (h : part? cs = some (p, rest)) :
    rest.length < cs.length := by
  unfold part? at h
  split at h
  case h_9 a b c d r =>
    rw [Option.map_eq_some_iff] at h
    obtain ⟨n, -, hn⟩ := h
    have := length_unitPart n r
    rw [hn] at this
    simp only [List.length_cons] at *; omega
  all_goals first
    | cases h; done
    | (cases h; simp only [List.length_cons]; omega)
    | (split at h <;> cases h; simp only [List.length_cons]; omega)

/-- The string whose opening quote has been read, up to its closing quote. `done` holds
the characters so far, the last first, and `whole` tells whether no half of a
surrogate pair was among them. -/
def stringFrom (done : List Char) (whole : Bool) (cs : List Char) :
    Option (Option String × List Char) :=
  match cs with
  | '"' :: rest => some (if whole then some (String.ofList done.reverse) else none, rest)
  | cs =>
    match _h : part? cs with
    | none => none
    | some (.char c, rest) => stringFrom (c :: done) whole rest
    | some (.half, rest) => stringFrom done false rest
termination_by cs.length
decreasing_by all_goals exact length_part? _h

theorem length_stringFrom {done : List Char} {whole : Bool} {cs rest : List Char}
    {s : Option String} (h : stringFrom done whole cs = some (s, rest)) :
    rest.length < cs.length := by
  fun_induction stringFrom done whole cs with
  | case1 => cases h; simp
  | case2 => cases h
  | case3 _ _ _ _ _ _ hp ih => exact Nat.lt_trans (ih h) (length_part? hp)
  | case4 _ _ _ _ _ hp ih => exact Nat.lt_trans (ih h) (length_part? hp)

/-! ### Numbers -/

/-- The digits before the point: a lone zero, or digits that start with another one. -/
def wholeDigits? (cs : List Char) : Option (List Char × List Char) :=
  match cs.takeWhile Char.isDigit with
  | [] => none
  | '0' :: _ :: _ => none
  | run => some (run, cs.dropWhile Char.isDigit)

/-- The digits after the point, none without a point. -/
def fractionDigits? : List Char → Option (List Char × List Char)
  | '.' :: rest =>
    match rest.takeWhile Char.isDigit with
    | [] => none
    | run => some (run, rest.dropWhile Char.isDigit)
  | rest => some ([], rest)

/-- The digits of an exponent. -/
def exponentDigits? (negative : Bool) (cs : List Char) : Option (Option Int × List Char) :=
  match cs.takeWhile Char.isDigit with
  | [] => none
  | run =>
    some (some (if negative then -(Decimal.value run : Int) else Decimal.value run),
      cs.dropWhile Char.isDigit)

/-- The exponent, if there is one. -/
def exponent? : List Char → Option (Option Int × List Char)
  | 'e' :: '-' :: rest | 'E' :: '-' :: rest => exponentDigits? true rest
  | 'e' :: '+' :: rest | 'E' :: '+' :: rest => exponentDigits? false rest
  | 'e' :: rest | 'E' :: rest => exponentDigits? false rest
  | rest => some (none, rest)

/-- The number that `cs` starts with, its sign having been read. -/
def magnitude? (negative : Bool) (cs : List Char) : Option (Numeral × List Char) := do
  let (whole, rest) ← wholeDigits? cs
  let (fraction, rest) ← fractionDigits? rest
  let (exponent, rest) ← exponent? rest
  some ({ negative, whole, fraction, exponent }, rest)

/-- The number that `cs` starts with. -/
def numeral? : List Char → Option (Numeral × List Char)
  | '-' :: rest => magnitude? true rest
  | cs => magnitude? false cs

theorem length_dropWhile_le {p : Char → Bool} (cs : List Char) :
    (cs.dropWhile p).length ≤ cs.length :=
  (List.dropWhile_sublist p).length_le

theorem length_wholeDigits? {cs run rest : List Char} (h : wholeDigits? cs = some (run, rest)) :
    rest.length < cs.length := by
  have hl :
      (cs.takeWhile Char.isDigit).length + (cs.dropWhile Char.isDigit).length = cs.length := by
    rw [← List.length_append, List.takeWhile_append_dropWhile]
  unfold wholeDigits? at h
  split at h
  · cases h
  · cases h
  · next hne _ =>
    cases h
    have : 0 < (cs.takeWhile Char.isDigit).length := List.length_pos_iff.2 hne
    omega

theorem length_fractionDigits? {cs run rest : List Char}
    (h : fractionDigits? cs = some (run, rest)) : rest.length ≤ cs.length := by
  unfold fractionDigits? at h
  split at h
  · next r =>
    have := length_dropWhile_le (p := Char.isDigit) r
    split at h
    · cases h
    · cases h
      simp only [List.length_cons]; omega
  · cases h; exact Nat.le_refl _

theorem length_exponentDigits? {negative : Bool} {cs rest : List Char} {e : Option Int}
    (h : exponentDigits? negative cs = some (e, rest)) : rest.length ≤ cs.length := by
  unfold exponentDigits? at h
  split at h
  · cases h
  · cases h
    exact length_dropWhile_le cs

theorem length_exponent? {cs rest : List Char} {e : Option Int}
    (h : exponent? cs = some (e, rest)) : rest.length ≤ cs.length := by
  unfold exponent? at h
  split at h
  case h_7 => cases h; exact Nat.le_refl _
  all_goals
    have := length_exponentDigits? h
    simp only [List.length_cons]; omega

theorem length_magnitude? {negative : Bool} {cs rest : List Char} {n : Numeral}
    (h : magnitude? negative cs = some (n, rest)) : rest.length < cs.length := by
  simp only [magnitude?, Option.bind_eq_bind, Option.bind_eq_some_iff] at h
  obtain ⟨⟨w, r₁⟩, h₁, ⟨f, r₂⟩, h₂, ⟨e, r₃⟩, h₃, h₄⟩ := h
  cases h₄
  have h₁ := length_wholeDigits? h₁
  have h₂ := length_fractionDigits? h₂
  have h₃ := length_exponent? h₃
  exact Nat.lt_of_le_of_lt h₃ (Nat.lt_of_le_of_lt h₂ h₁)

/-- A number takes at least one character. -/
theorem length_numeral? {cs rest : List Char} {n : Numeral}
    (h : numeral? cs = some (n, rest)) : rest.length < cs.length := by
  unfold numeral? at h
  split at h
  · have := length_magnitude? h
    simp only [List.length_cons]; omega
  · exact length_magnitude? h

/-! ### Tokens -/

/-- The four characters that may stand between tokens. -/
def isSpace (c : Char) : Bool := c == ' ' || c == '\t' || c == '\n' || c == '\r'

/-- The token that `cs` starts with, and what follows it. -/
def token? : List Char → Option (Token × List Char)
  | '[' :: rest => some (.openBracket, rest)
  | ']' :: rest => some (.closeBracket, rest)
  | '{' :: rest => some (.openBrace, rest)
  | '}' :: rest => some (.closeBrace, rest)
  | ',' :: rest => some (.comma, rest)
  | ':' :: rest => some (.colon, rest)
  | 'n' :: 'u' :: 'l' :: 'l' :: rest => some (.null, rest)
  | 't' :: 'r' :: 'u' :: 'e' :: rest => some (.bool true, rest)
  | 'f' :: 'a' :: 'l' :: 's' :: 'e' :: rest => some (.bool false, rest)
  | '"' :: rest => (stringFrom [] true rest).map fun (s, rest) => (.string s, rest)
  | cs => (numeral? cs).map fun (n, rest) => (.number n, rest)

/-- A token takes at least one character. -/
theorem length_token? {cs rest : List Char} {t : Token} (h : token? cs = some (t, rest)) :
    rest.length < cs.length := by
  unfold token? at h
  split at h
  case h_10 =>
    rw [Option.map_eq_some_iff] at h
    obtain ⟨⟨s, r⟩, hs, he⟩ := h
    cases he
    have := length_stringFrom hs
    simp only [List.length_cons]; omega
  case h_11 =>
    rw [Option.map_eq_some_iff] at h
    obtain ⟨⟨n, r⟩, hn, he⟩ := h
    cases he
    exact length_numeral? hn
  all_goals (cases h; simp only [List.length_cons]; omega)

/-- `done`, reversed, followed by the tokens of `cs`. -/
def tokensFrom (done : List Token) (cs : List Char) : List Token :=
  match cs with
  | [] => done.reverse
  | c :: rest =>
    if isSpace c then tokensFrom done rest
    else
      match _h : token? (c :: rest) with
      | none => (Token.stray :: done).reverse
      | some (t, left) => tokensFrom (t :: done) left
termination_by cs.length
decreasing_by
  · simp
  · exact length_token? _h

/-- The tokens of a text, with `stray` at the end when the text goes wrong. -/
def tokens (cs : List Char) : List Token := tokensFrom [] cs

end NearbyBeacons.Json
