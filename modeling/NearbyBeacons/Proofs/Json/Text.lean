import NearbyBeacons.Json.Value
import NearbyBeacons.Proofs.Decimal
import NearbyBeacons.Proofs.Json.Reading
/-!
# The text of a value read back

The compact text of a value spells the tree of that value (`spells_text`): its strings lose their
escapes, and its numbers are read with their digits.
-/

namespace NearbyBeacons.Json

/-! ### Strings -/

/-- Each character of a string is read back, escaped or not. -/
theorem part?_escapeChar (c : Char) (rest : List Char) :
    part? (escapeChar c ++ rest) = some (.char c, rest) := by
  unfold escapeChar
  split
  case h_8 hquote hback _ _ _ _ _ =>
    split
    · next hcontrol =>
      have hcode : ∀ n < 32, codeUnit? '0' '0' (Ascii.hexDigitLower (n / 16))
          (Ascii.hexDigitLower (n % 16)) = some n := by decide
      show (codeUnit? '0' '0' (Ascii.hexDigitLower (c.toNat / 16))
        (Ascii.hexDigitLower (c.toNat % 16))).map (fun n => unitPart n rest) = _
      -- a control character is no half of a surrogate pair
      have hlow : ¬(0xD800 ≤ c.toNat ∧ c.toNat < 0xDC00) := by omega
      have hhigh : ¬(0xDC00 ≤ c.toNat ∧ c.toNat < 0xE000) := by omega
      rw [hcode c.toNat hcontrol, Option.map_some, unitPart, if_neg hlow, if_neg hhigh,
        Char.ofNat_toNat]
    · next hplain =>
      rw [List.singleton_append, part?, if_neg hplain]
      all_goals
        intros
        contradiction
  all_goals rfl

/-- Escaped characters are read back, up to the closing quotation mark. -/
theorem stringFrom_flatMap (done cs rest : List Char) :
    stringFrom done true (cs.flatMap escapeChar ++ '"' :: rest) =
      some (some (String.ofList (done.reverse ++ cs)), rest) := by
  induction cs generalizing done with
  | nil => rw [List.flatMap_nil, List.nil_append, stringFrom, if_pos rfl, List.append_nil]
  | cons c cs ih =>
    have hrest := ih (c :: done)
    rw [List.reverse_cons, List.append_assoc, List.singleton_append] at hrest
    rw [List.flatMap_cons, List.append_assoc, stringFrom_part (part?_escapeChar c _)]
    exact hrest

/-- A written string is one token. -/
theorem token?_quoted (s : String) : token? (quoted s) = some (.string (some s), []) := by
  have hstring := stringFrom_flatMap [] s.toList []
  rw [List.reverse_nil, List.nil_append, String.ofList_toList] at hstring
  rw [quoted, List.cons_append, token?, hstring]
  rfl

/-! ### Numbers -/

/-- The numeral of a whole number. -/
def wholeNumeral (n : Int) : Numeral :=
  ⟨decide (n < 0), Decimal.digits n.natAbs, [], none⟩

/-- All digits of a number are taken, since none but a lone zero is zero in front. -/
theorem wholeDigits?_digits (n : Nat) {rest : List Char}
    (hrest : ∀ c ∈ rest.head?, c.isDigit = false) :
    wholeDigits? (Decimal.digits n ++ rest) = some (Decimal.digits n, rest) := by
  have hdigits : ∀ c ∈ Decimal.digits n, c.isDigit = true := fun _ => Decimal.isDigit_of_mem_digits
  unfold wholeDigits?
  rw [Text.takeWhile_run hdigits hrest, Text.dropWhile_run hdigits hrest]
  split
  · next hnil => exact absurd hnil (Decimal.digits_ne_nil n)
  · next c cs hzero =>
    -- only zero begins with a zero, and it has one digit
    by_cases hn : n = 0
    · subst hn
      rw [Decimal.digits_zero] at hzero
      cases hzero
    · exact absurd (by rw [hzero]; rfl) (Decimal.head?_digits_ne_zero hn)
  · rfl

theorem exponentDigits?_digits (negative : Bool) (n : Nat) :
    exponentDigits? negative (Decimal.digits n) =
      some (some (if negative then -(n : Int) else n), []) := by
  have hdigits : ∀ c ∈ Decimal.digits n, c.isDigit = true := fun _ => Decimal.isDigit_of_mem_digits
  have htake : (Decimal.digits n).takeWhile Char.isDigit = Decimal.digits n :=
    List.takeWhile_eq_self_iff.mpr hdigits
  have hdrop : (Decimal.digits n).dropWhile Char.isDigit = [] :=
    List.dropWhile_eq_nil_iff.mpr hdigits
  unfold exponentDigits?
  rw [htake, hdrop]
  split
  · next hnil => exact absurd hnil (Decimal.digits_ne_nil n)
  · rw [Decimal.value_digits]

theorem exponent?_int (n : Int) : exponent? ('e' :: Decimal.int n) = some (some n, []) := by
  cases n with
  | ofNat n =>
    rw [Decimal.int, exponent?]
    · exact exponentDigits?_digits false n
    all_goals
      intro r heq
      have hdigit : ∀ c ∈ Decimal.digits n, c.isDigit = true :=
        fun _ => Decimal.isDigit_of_mem_digits
      rw [heq] at hdigit
      exact absurd (hdigit _ List.mem_cons_self) (by decide)
  | negSucc n => exact exponentDigits?_digits true (n + 1)

/-- A number that begins with the digits of a whole one is no other token. -/
theorem token?_digits {negative : Bool} {n : Nat} {rest rest' : List Char} {numeral : Numeral}
    (h : magnitude? negative (Decimal.digits n ++ rest) = some (numeral, rest')) :
    token? (Binary64.signed negative (Decimal.digits n ++ rest)) =
      some (.number numeral, rest') := by
  cases negative with
  | true =>
    have hne : ∀ d, d ≠ '-' → ∀ r, '-' :: (Decimal.digits n ++ rest) ≠ d :: r :=
      fun d hd _ heq => hd (List.cons.inj heq).1.symm
    rw [Binary64.signed, if_pos rfl, token?, numeral?, h]
    · rfl
    all_goals exact fun _ => hne _ (by decide) _
  | false =>
    have hne : ∀ d, d.isDigit = false → ∀ cs, Decimal.digits n ++ rest ≠ d :: cs :=
      fun d => Text.run_ne_cons (Decimal.digits_ne_nil n) fun _ => Decimal.isDigit_of_mem_digits
    rw [Binary64.signed, if_neg Bool.false_ne_true, token?, numeral?, h]
    · rfl
    all_goals exact fun _ => hne _ (by decide) _

/-- A written whole number is one token, its sign included. -/
theorem token?_int (n : Int) : token? (Decimal.int n) = some (.number (wholeNumeral n), []) := by
  have hint : Decimal.int n = Binary64.signed (decide (n < 0)) (Decimal.digits n.natAbs ++ []) := by
    rw [List.append_nil]
    cases n with
    | ofNat n =>
      have hnonneg : ¬Int.ofNat n < 0 := Int.not_lt.mpr (Int.natCast_nonneg n)
      rw [Binary64.signed, decide_eq_false hnonneg]
      rfl
    | negSucc n =>
      rw [Binary64.signed, decide_eq_true (Int.negSucc_lt_zero n)]
      rfl
  have hnil : ∀ c ∈ ([] : List Char).head?, c.isDigit = false := by simp
  rw [hint]
  apply token?_digits
  rw [magnitude?, wholeDigits?_digits _ hnil]
  rfl

/-- A written double has a fraction and an exponent, and both are taken. -/
theorem magnitude?_scientific (negative : Bool) (n : Nat) (e : Int) :
    magnitude? negative (Decimal.digits n ++ '.' :: '0' :: 'e' :: Decimal.int e) =
      some (⟨negative, Decimal.digits n, ['0'], some e⟩, []) := by
  have hfraction : fractionDigits? ('.' :: '0' :: 'e' :: Decimal.int e) =
      some (['0'], 'e' :: Decimal.int e) := rfl
  rw [magnitude?, wholeDigits?_digits _ (Text.forall_mem_head?_cons (by decide) _)]
  simp only [Option.bind_eq_bind, Option.bind_some, hfraction, exponent?_int]

/-- The tree of a number that is not whole; `null` if it is not finite. -/
def realDraft (x : Binary64) : Draft :=
  match x.datum with
  | .finite negative m e =>
    let s := if m = 0 then ⟨0, 0⟩ else Binary64.shortestDecimal m e
    .number ⟨negative, Decimal.digits s.digits, ['0'], some s.exponent⟩
  | _ => .null

theorem spells_realText (x : Binary64) : Spells (realText x) (realDraft x).tokens := by
  unfold realText realDraft
  cases x.datum with
  | finite negative m e =>
    simp only [Draft.tokens]
    apply spells_singleton
    apply token?_digits
    exact magnitude?_scientific negative _ _
  | _ =>
    simp only [Draft.tokens]
    exact spells_singleton rfl

/-! ### Values -/

mutual

/-- The tree of a value. -/
def draft : Json → Draft
  | .null => .null
  | .bool b => .bool b
  | .integer n => .number (wholeNumeral n)
  | .real x => realDraft x
  | .string s => .string s
  | .array items => .array (itemDrafts items)
  | .object members => .object (memberDrafts members)

/-- The trees of items. -/
def itemDrafts : List Json → List Draft
  | [] => []
  | item :: rest => draft item :: itemDrafts rest

/-- The trees of members. -/
def memberDrafts : List (String × Json) → List (Option String × Draft)
  | [] => []
  | (name, value) :: rest => (some name, draft value) :: memberDrafts rest

end

theorem spells_mark {c : Char} {t : Token} (h : token? [c] = some (t, [])) {cs : List Char}
    {ts : List Token} (hts : Spells cs ts) : Spells (c :: cs) (t :: ts) :=
  (spells_singleton h).append hts

theorem spells_commaSeparated {parts : List (List Char)} {tss : List (List Token)}
    (h : List.Forall₂ Spells parts tss) :
    Spells (commaSeparated parts) ([.comma].intercalate tss) := by
  induction h with
  | nil => exact .done nofun
  | @cons part ts parts tss hpart hrest ih =>
    cases hrest with
    | nil =>
      rw [commaSeparated, List.intercalate_singleton]
      exact hpart
    | cons hpart' hrest' =>
      rw [commaSeparated, List.intercalate_cons_cons, List.append_assoc, List.singleton_append]
      · exact hpart.append (spells_mark rfl ih)
      · exact List.cons_ne_nil _ _

mutual

/-- The text of a value spells its tree. -/
theorem spells_text : ∀ j : Json, Spells j.text j.draft.tokens
  | .null => by
    rw [text, draft, Draft.tokens]
    exact spells_singleton rfl
  | .bool b => by
    rw [draft, Draft.tokens]
    cases b with
    | false => rw [text]; exact spells_singleton rfl
    | true => rw [text]; exact spells_singleton rfl
  | .integer n => by
    rw [text, draft, Draft.tokens]
    exact spells_singleton (token?_int n)
  | .real x => by
    rw [text, draft]
    exact spells_realText x
  | .string s => by
    rw [text, draft, Draft.tokens]
    exact spells_singleton (token?_quoted s)
  | .array items => by
    rw [text, draft, Draft.tokens]
    exact spells_mark rfl ((spells_commaSeparated (spells_itemTexts items)).append
      (spells_singleton rfl))
  | .object members => by
    rw [text, draft, Draft.tokens]
    exact spells_mark rfl ((spells_commaSeparated (spells_memberTexts members)).append
      (spells_singleton rfl))

theorem spells_itemTexts : ∀ items : List Json,
    List.Forall₂ Spells (itemTexts items) (itemTokens (itemDrafts items))
  | [] => by
    rw [itemTexts, itemDrafts, itemTokens]
    exact .nil
  | item :: rest => by
    rw [itemTexts, itemDrafts, itemTokens]
    exact .cons (spells_text item) (spells_itemTexts rest)

theorem spells_memberTexts : ∀ members : List (String × Json),
    List.Forall₂ Spells (memberTexts members) (memberTokens (memberDrafts members))
  | [] => by
    rw [memberTexts, memberDrafts, memberTokens]
    exact .nil
  | (name, value) :: rest => by
    rw [memberTexts, memberDrafts, memberTokens]
    exact .cons ((spells_singleton (token?_quoted name)).append
      (spells_mark rfl (spells_text value))) (spells_memberTexts rest)

end

/-- What is decoded from the text of a value is decoded from its tree. -/
theorem decodeText_text {α : Type} (f : Decoder α) (j : Json) : f.decodeText j.text = f j.draft :=
  decodeText_of_spells f (spells_text j)

end NearbyBeacons.Json
