import NearbyBeacons.Json.Decoder
import NearbyBeacons.Proofs.Json.Spelling
import NearbyBeacons.Proofs.Text.Joined
/-!
# The reading of a tree

A tree has one row of tokens (`Draft.tokens`). Reading a text gives a tree, without a fault,
exactly if the text spells the tokens of the tree (`read_eq_iff`): the tokens read so far are those
of what is open around the place that has been reached (`advance?_tokens`).
-/

namespace NearbyBeacons.Json

open Text (exists_intercalate_cons flatMap_concat intercalate_concat mem_intercalate)

/-! ### Tokens of a tree -/

mutual

/-- The tokens of a tree; the mark of a fault where it is cut. -/
def Draft.tokens : Draft → List Token
  | .null => [.null]
  | .bool b => [.bool b]
  | .number n => [.number n]
  | .string s => [.string (some s)]
  | .halfPair => [.string none]
  | .array items => .openBracket :: ([.comma].intercalate (itemTokens items) ++ [.closeBracket])
  | .object members => .openBrace :: ([.comma].intercalate (memberTokens members) ++ [.closeBrace])
  | .cut => [.stray]

/-- The tokens of each item. -/
def itemTokens : List Draft → List (List Token)
  | [] => []
  | d :: rest => d.tokens :: itemTokens rest

/-- The tokens of each member. -/
def memberTokens : List (Option String × Draft) → List (List Token)
  | [] => []
  | (name, d) :: rest => (.string name :: .colon :: d.tokens) :: memberTokens rest

end

theorem itemTokens_eq (items : List Draft) : itemTokens items = items.map Draft.tokens := by
  induction items with
  | nil => rw [itemTokens, List.map_nil]
  | cons d items ih => rw [itemTokens, List.map_cons, ih]

theorem memberTokens_eq (members : List (Option String × Draft)) : memberTokens members =
    members.map fun member => .string member.1 :: .colon :: member.2.tokens := by
  induction members with
  | nil => rw [memberTokens, List.map_nil]
  | cons member members ih => rw [memberTokens, List.map_cons, ih]

/-! ### Separation -/

theorem separated_cons {t : Token} (ht : t.isNumber = false) {ts : List Token}
    (hts : Separated ts) : Separated (t :: ts) := by
  rw [Separated, List.isChain_cons]
  refine ⟨fun next _ hnumber => ?_, hts⟩
  rw [ht] at hnumber
  cases hnumber

/-- What may follow a value: nothing, or a token that no number goes on with. -/
structure EndsValue (ts : List Token) : Prop where
  separated : Separated ts
  head : ∀ t ∈ ts.head?, t.endsNumber = true

theorem endsValue_nil : EndsValue [] := ⟨List.isChain_nil, nofun⟩

theorem endsValue_cons {t : Token} (ht : t.isNumber = false) (hend : t.endsNumber = true)
    {ts : List Token} (hts : Separated ts) : EndsValue (t :: ts) := by
  refine ⟨separated_cons ht hts, fun t' ht' => ?_⟩
  rwa [← Option.some.inj ht']

mutual

theorem separated_tokens : ∀ (d : Draft) {ts : List Token}, EndsValue ts →
    Separated (d.tokens ++ ts)
  | .null, _, h | .bool _, _, h | .string _, _, h | .halfPair, _, h | .cut, _, h => by
    rw [Draft.tokens]
    exact separated_cons rfl h.separated
  | .number n, ts, h => by
    rw [Draft.tokens, List.singleton_append, Separated, List.isChain_cons]
    exact ⟨fun t ht _ => h.head t ht, h.separated⟩
  | .array items, ts, h => by
    rw [Draft.tokens, List.cons_append, List.append_assoc, List.singleton_append]
    exact separated_cons rfl (separated_itemTokens items (endsValue_cons rfl rfl h.separated))
  | .object members, ts, h => by
    rw [Draft.tokens, List.cons_append, List.append_assoc, List.singleton_append]
    exact separated_cons rfl (separated_memberTokens members (endsValue_cons rfl rfl h.separated))

theorem separated_itemTokens : ∀ (items : List Draft) {ts : List Token}, EndsValue ts →
    Separated ([.comma].intercalate (itemTokens items) ++ ts)
  | [], _, h => by
    rw [itemTokens, List.intercalate_nil]
    exact h.separated
  | [d], _, h => by
    rw [itemTokens, itemTokens, List.intercalate_singleton]
    exact separated_tokens d h
  | d :: d' :: rest, _, h => by
    have hrest := separated_itemTokens (d' :: rest) h
    rw [itemTokens] at hrest
    rw [itemTokens, itemTokens, List.intercalate_cons_cons, List.append_assoc, List.append_assoc,
      List.singleton_append]
    exact separated_tokens d (endsValue_cons rfl rfl hrest)

theorem separated_memberTokens : ∀ (members : List (Option String × Draft)) {ts : List Token},
    EndsValue ts → Separated ([.comma].intercalate (memberTokens members) ++ ts)
  | [], _, h => by
    rw [memberTokens, List.intercalate_nil]
    exact h.separated
  | [(name, d)], _, h => by
    rw [memberTokens, memberTokens, List.intercalate_singleton]
    exact separated_cons rfl (separated_cons rfl (separated_tokens d h))
  | (name, d) :: (name', d') :: rest, _, h => by
    have hrest := separated_memberTokens ((name', d') :: rest) h
    rw [memberTokens] at hrest
    rw [memberTokens, memberTokens, List.intercalate_cons_cons, List.append_assoc,
      List.append_assoc, List.singleton_append]
    exact separated_cons rfl (separated_cons rfl
      (separated_tokens d (endsValue_cons rfl rfl hrest)))

end

/-! ### Reading the tokens of a tree -/

/-- The reading of the tokens behind a value. -/
def resume (v : Draft) (stack : List Frame) (ts : List Token) : Reading :=
  readFrom (afterValue v stack).1 (afterValue v stack).2 ts

theorem readFrom_cons {place place' : Place} {stack stack' : List Frame} {t : Token}
    (h : advance? place stack t = some (place', stack')) (ts : List Token) :
    readFrom place stack (t :: ts) = readFrom place' stack' ts := by
  rw [readFrom, h]

theorem readFrom_openBracket (stack : List Frame) (ts : List Token) :
    readFrom .value stack (.openBracket :: ts) = readFrom .firstItem stack ts :=
  readFrom_cons rfl ts

theorem readFrom_openBrace (stack : List Frame) (ts : List Token) :
    readFrom .value stack (.openBrace :: ts) = readFrom .firstName stack ts :=
  readFrom_cons rfl ts

theorem readFrom_colon (done : List (Option String × Draft)) (name : Option String)
    (stack : List Frame) (ts : List Token) : readFrom (.afterName done name) stack (.colon :: ts) =
      readFrom .value (.object done name :: stack) ts :=
  readFrom_cons rfl ts

theorem resume_item_comma (d : Draft) (done : List Draft) (stack : List Frame) (ts : List Token) :
    resume d (.array done :: stack) (.comma :: ts) =
      readFrom .value (.array (d :: done) :: stack) ts :=
  readFrom_cons rfl ts

theorem resume_member_comma (d : Draft) (done : List (Option String × Draft))
    (name : Option String) (stack : List Frame) (ts : List Token) :
    resume d (.object done name :: stack) (.comma :: ts) =
      readFrom (.nextName ((name, d) :: done)) stack ts :=
  readFrom_cons rfl ts

/-- The first token of a tree starts a value wherever it stands. -/
theorem exists_enter? {d : Draft} (h : Token.stray ∉ d.tokens) : ∃ t ts, d.tokens = t :: ts ∧
    t ≠ .closeBracket ∧ ∀ stack, ∃ next, enter? t stack = some next := by
  cases d with
  | cut => exact absurd (by rw [Draft.tokens]; exact List.mem_singleton_self _) h
  | _ =>
    rw [Draft.tokens]
    exact ⟨_, _, rfl, by simp, fun _ => ⟨_, rfl⟩⟩

/-- The first item of an array is read like every other one. -/
theorem readFrom_firstItem {d : Draft} (h : Token.stray ∉ d.tokens) (stack : List Frame)
    (ts : List Token) : readFrom .firstItem stack (d.tokens ++ ts) =
      readFrom .value (.array [] :: stack) (d.tokens ++ ts) := by
  obtain ⟨t, ts', htokens, hne, henter⟩ := exists_enter? h
  obtain ⟨⟨place, stack'⟩, hnext⟩ := henter (.array [] :: stack)
  have hfirst : advance? .firstItem stack t = some (place, stack') := by
    rw [advance?]
    · exact hnext
    · exact hne
  have hvalue : advance? .value (.array [] :: stack) t = some (place, stack') := hnext
  rw [htokens, List.cons_append, readFrom_cons hfirst, readFrom_cons hvalue]

/-- What is cut nowhere has no part that is cut. -/
theorem not_mem_of_intercalate {sep first last : Token} {xs : List (List Token)}
    (h : Token.stray ∉ first :: ([sep].intercalate xs ++ [last])) : ∀ ys ∈ xs, Token.stray ∉ ys :=
  fun _ hys hmem => h (List.mem_cons_of_mem _ (List.mem_append_left _ (mem_intercalate hys hmem)))

mutual

/-- From the tokens of a tree the tree is read. -/
theorem readFrom_tokens : ∀ (d : Draft), Token.stray ∉ d.tokens → ∀ stack ts,
    readFrom .value stack (d.tokens ++ ts) = resume d stack ts
  | .null, _, stack, ts | .bool _, _, stack, ts | .number _, _, stack, ts
  | .string _, _, stack, ts | .halfPair, _, stack, ts => by
    rw [Draft.tokens]
    exact readFrom_cons rfl ts
  | .array [], _, stack, ts => by
    rw [Draft.tokens, itemTokens, List.intercalate_nil]
    exact (readFrom_openBracket stack _).trans (readFrom_cons rfl ts)
  | .array (d :: items), h, stack, ts => by
    rw [Draft.tokens] at h
    have hitems := readFrom_itemTokens (d :: items) (not_mem_of_intercalate h) nofun [] stack ts
    have hd : Token.stray ∉ d.tokens :=
      not_mem_of_intercalate h _ (by rw [itemTokens]; exact List.mem_cons_self)
    -- the first token of the first item tells that the array is not empty
    obtain ⟨ts', hts'⟩ := exists_intercalate_cons .comma d.tokens (itemTokens items)
    rw [itemTokens, hts', List.append_assoc] at hitems
    rw [Draft.tokens, itemTokens, hts', List.cons_append, List.append_assoc, List.append_assoc,
      List.singleton_append, readFrom_openBracket, readFrom_firstItem hd]
    exact hitems
  | .object [], _, stack, ts => by
    rw [Draft.tokens, memberTokens, List.intercalate_nil]
    exact (readFrom_openBrace stack _).trans (readFrom_cons rfl ts)
  | .object (member :: members), h, stack, ts => by
    rw [Draft.tokens] at h
    rw [Draft.tokens, List.cons_append, List.append_assoc, List.singleton_append,
      readFrom_openBrace]
    exact readFrom_memberTokens (member :: members) (not_mem_of_intercalate h) nofun
      .firstName [] stack ts fun _ => rfl
  | .cut, h, _, _ => absurd (by rw [Draft.tokens]; exact List.mem_singleton_self _) h

/-- From the tokens of the items that are left the array is read. -/
theorem readFrom_itemTokens : ∀ (items : List Draft),
    (∀ ts ∈ itemTokens items, Token.stray ∉ ts) → items ≠ [] → ∀ done stack ts,
      readFrom .value (.array done :: stack)
          ([.comma].intercalate (itemTokens items) ++ .closeBracket :: ts) =
        resume (.array (done.reverse ++ items)) stack ts
  | [], _, hne, _, _, _ => absurd rfl hne
  | [d], h, _, done, stack, ts => by
    rw [itemTokens, itemTokens] at h
    have hd := readFrom_tokens d (h _ List.mem_cons_self) (.array done :: stack)
      (.closeBracket :: ts)
    rw [itemTokens, itemTokens, List.intercalate_singleton, hd, ← List.reverse_cons]
    exact readFrom_cons rfl ts
  | d :: d' :: rest, h, _, done, stack, ts => by
    rw [itemTokens, List.forall_mem_cons] at h
    have hrest := readFrom_itemTokens (d' :: rest) h.2 nofun (d :: done) stack ts
    rw [itemTokens] at hrest
    rw [itemTokens, itemTokens, List.intercalate_cons_cons, List.append_assoc, List.append_assoc,
      List.singleton_append, readFrom_tokens d h.1, resume_item_comma]
    rw [List.reverse_cons, List.append_assoc, List.singleton_append] at hrest
    exact hrest

/-- From the tokens of the members that are left the object is read. -/
theorem readFrom_memberTokens : ∀ (members : List (Option String × Draft)),
    (∀ ts ∈ memberTokens members, Token.stray ∉ ts) → members ≠ [] → ∀ place done stack ts,
      (∀ name, advance? place stack (.string name) = some (.afterName done name, stack)) →
        readFrom place stack ([.comma].intercalate (memberTokens members) ++ .closeBrace :: ts) =
          resume (.object (done.reverse ++ members)) stack ts
  | [], _, hne, _, _, _, _, _ => absurd rfl hne
  | [(name, d)], h, _, place, done, stack, ts, hplace => by
    rw [memberTokens, memberTokens] at h
    have hd : Token.stray ∉ d.tokens := fun hmem =>
      h _ List.mem_cons_self (List.mem_cons_of_mem _ (List.mem_cons_of_mem _ hmem))
    rw [memberTokens, memberTokens, List.intercalate_singleton, List.cons_append, List.cons_append,
      readFrom_cons (hplace name), readFrom_colon, readFrom_tokens d hd, ← List.reverse_cons]
    exact readFrom_cons rfl ts
  | (name, d) :: (name', d') :: rest, h, _, place, done, stack, ts, hplace => by
    rw [memberTokens, List.forall_mem_cons] at h
    have hd : Token.stray ∉ d.tokens := fun hmem =>
      h.1 (List.mem_cons_of_mem _ (List.mem_cons_of_mem _ hmem))
    have hrest := readFrom_memberTokens ((name', d') :: rest) h.2 nofun
      (.nextName ((name, d) :: done)) ((name, d) :: done) stack ts fun _ => rfl
    rw [memberTokens] at hrest
    rw [memberTokens, memberTokens, List.intercalate_cons_cons, List.append_assoc,
      List.append_assoc, List.singleton_append, List.cons_append, List.cons_append,
      readFrom_cons (hplace name), readFrom_colon, readFrom_tokens d hd, resume_member_comma]
    rw [List.reverse_cons, List.append_assoc, List.singleton_append] at hrest
    exact hrest

end

/-! ### The tokens read so far -/

/-- The tokens of an open array or object up to the value that is being read. -/
def Frame.tokens : Frame → List Token
  | .array items => .openBracket :: (itemTokens items.reverse).flatMap (· ++ [.comma])
  | .object members name =>
    .openBrace :: ((memberTokens members.reverse).flatMap (· ++ [.comma]) ++
      [.string name, .colon])

/-- The tokens of a place in what is open there itself. -/
def Place.tokens : Place → List Token
  | .value => []
  | .firstItem => [.openBracket]
  | .afterItem items => .openBracket :: [.comma].intercalate (itemTokens items.reverse)
  | .firstName => [.openBrace]
  | .nextName members => .openBrace :: (memberTokens members.reverse).flatMap (· ++ [.comma])
  | .afterName members name =>
    .openBrace :: ((memberTokens members.reverse).flatMap (· ++ [.comma]) ++ [.string name])
  | .afterMember members => .openBrace :: [.comma].intercalate (memberTokens members.reverse)
  | .finish v => v.tokens

/-- The tokens that lead to a place. -/
def tokensUpTo (place : Place) (stack : List Frame) : List Token :=
  stack.reverse.flatMap Frame.tokens ++ place.tokens

/-- After an item there is one, and nothing is open after the outermost value. -/
def Place.Fits (stack : List Frame) : Place → Prop
  | .afterItem items => items ≠ []
  | .afterMember members => members ≠ []
  | .finish _ => stack = []
  | _ => True

/-- Nothing but the tokens of a value leads on from before it to behind it. -/
theorem afterValue_tokens (v : Draft) (stack : List Frame) :
    tokensUpTo (afterValue v stack).1 (afterValue v stack).2 =
      stack.reverse.flatMap Frame.tokens ++ v.tokens ∧
        (afterValue v stack).1.Fits (afterValue v stack).2 := by
  cases stack with
  | nil => exact ⟨rfl, rfl⟩
  | cons frame stack =>
    rw [List.reverse_cons, List.flatMap_append, List.flatMap_singleton]
    cases frame with
    | array items =>
      refine ⟨?_, List.cons_ne_nil _ _⟩
      rw [afterValue, tokensUpTo, Place.tokens, Frame.tokens, itemTokens_eq, itemTokens_eq,
        List.reverse_cons, List.map_append, List.map_singleton, intercalate_concat]
      simp only [List.append_assoc, List.cons_append]
    | object members name =>
      refine ⟨?_, List.cons_ne_nil _ _⟩
      rw [afterValue, tokensUpTo, Place.tokens, Frame.tokens, memberTokens_eq, memberTokens_eq,
        List.reverse_cons, List.map_append, List.map_singleton, intercalate_concat]
      simp only [List.append_assoc, List.cons_append, List.nil_append]

theorem tokens_of_scalar? {t : Token} {v : Draft} (h : scalar? t = some v) :
    v.tokens = [t] ∧ t ≠ .stray := by
  unfold scalar? at h
  split at h
  case h_6 => cases h
  all_goals
    cases h
    rw [Draft.tokens]
    exact ⟨rfl, by simp⟩

theorem enter?_tokens {place : Place} {stack stack' : List Frame} {t : Token}
    (h : enter? t stack = some (place, stack')) :
    tokensUpTo place stack' = stack.reverse.flatMap Frame.tokens ++ [t] ∧ place.Fits stack' ∧
      t ≠ .stray := by
  unfold enter? at h
  split at h
  case h_1 | h_2 =>
    cases h
    exact ⟨rfl, trivial, by simp⟩
  case h_3 =>
    obtain ⟨v, hv, heq⟩ := Option.map_eq_some_iff.mp h
    obtain ⟨htokens, hne⟩ := tokens_of_scalar? hv
    obtain ⟨hafter, hfits⟩ := afterValue_tokens v stack
    rw [heq] at hafter hfits
    exact ⟨by rw [hafter, htokens], hfits, hne⟩

/-- The mark that ends an array or an object completes its tokens. -/
theorem close_tokens {place place' : Place} {stack stack' : List Frame} {t : Token} {v : Draft}
    (h : some (afterValue v stack) = some (place', stack')) (hv : v.tokens = place.tokens ++ [t])
    (ht : t ≠ .stray) : tokensUpTo place' stack' = tokensUpTo place stack ++ [t] ∧
      place'.Fits stack' ∧ t ≠ .stray := by
  obtain ⟨hafter, hfits⟩ := afterValue_tokens v stack
  rw [Option.some.inj h] at hafter hfits
  refine ⟨?_, hfits, ht⟩
  rw [hafter, hv, tokensUpTo, List.append_assoc]

/-- A step adds the token that it takes. -/
theorem advance?_tokens {place place' : Place} {stack stack' : List Frame} {t : Token}
    (hplace : place.Fits stack) (h : advance? place stack t = some (place', stack')) :
    tokensUpTo place' stack' = tokensUpTo place stack ++ [t] ∧ place'.Fits stack' ∧
      t ≠ .stray := by
  -- one case for each place and the token that may stand there
  unfold advance? at h
  split at h
  case h_1 =>
    have hvalue : tokensUpTo .value stack = stack.reverse.flatMap Frame.tokens :=
      List.append_nil _
    rw [hvalue]
    exact enter?_tokens h
  case h_2 =>
    refine close_tokens h ?_ (by simp)
    rw [Draft.tokens, itemTokens]
    rfl
  case h_3 =>
    obtain ⟨htokens, hfits, hne⟩ := enter?_tokens h
    refine ⟨?_, hfits, hne⟩
    rw [htokens, List.reverse_cons, List.flatMap_append, List.flatMap_singleton]
    rfl
  case h_4 items =>
    cases h
    refine ⟨?_, trivial, by simp⟩
    -- every item so far has a comma behind it now
    have hne : itemTokens items.reverse ≠ [] := by
      rw [itemTokens_eq]
      simpa [Place.Fits] using hplace
    rw [tokensUpTo, tokensUpTo, List.reverse_cons, List.flatMap_append, List.flatMap_singleton,
      Frame.tokens, flatMap_concat _ hne]
    simp [Place.tokens]
  case h_5 | h_11 =>
    refine close_tokens h ?_ (by simp)
    rw [Draft.tokens, Place.tokens, List.cons_append]
  case h_6 =>
    refine close_tokens h ?_ (by simp)
    rw [Draft.tokens, memberTokens]
    rfl
  case h_7 | h_8 | h_9 =>
    cases h
    refine ⟨?_, trivial, by simp⟩
    simp [tokensUpTo, Place.tokens, Frame.tokens, memberTokens]
  case h_10 members =>
    cases h
    refine ⟨?_, trivial, by simp⟩
    have hne : memberTokens members.reverse ≠ [] := by
      rw [memberTokens_eq]
      simpa [Place.Fits] using hplace
    rw [tokensUpTo, tokensUpTo, Place.tokens, Place.tokens, flatMap_concat _ hne]
    simp
  case h_12 => cases h

theorem fault_ne (stack : List Frame) (place : Place) (d : Draft) :
    fault stack place ≠ ⟨d, true⟩ := by
  have hended : (fault stack place).ended = false := by cases place <;> rfl
  intro h
  rw [h] at hended
  cases hended

/-- What is read to the end has the tokens that were read. -/
theorem tokens_of_readFrom {ts : List Token} {place : Place} {stack : List Frame} {d : Draft}
    (hplace : place.Fits stack) (h : readFrom place stack ts = ⟨d, true⟩) :
    tokensUpTo place stack ++ ts = d.tokens ∧ Token.stray ∉ ts := by
  induction ts generalizing place stack with
  | nil =>
    cases place with
    | finish v =>
      cases h
      rw [show stack = [] from hplace, List.append_nil]
      exact ⟨rfl, List.not_mem_nil⟩
    | _ =>
      rw [readFrom] at h
      · exact absurd h (fault_ne _ _ _)
      · nofun
  | cons t ts ih =>
    rw [readFrom] at h
    split at h
    · next place' stack' hstep =>
      obtain ⟨htokens, hfits, hne⟩ := advance?_tokens hplace hstep
      obtain ⟨hrest, hstray⟩ := ih hfits h
      refine ⟨?_, ?_⟩
      · rw [← hrest, htokens, List.append_assoc, List.singleton_append]
      · rw [List.mem_cons, not_or]
        exact ⟨hne.symm, hstray⟩
    · exact absurd h (fault_ne _ _ _)

/-! ### Reading and decoding a text -/

/-- A text is read as a tree, without a fault, exactly if it spells the tokens of the tree. -/
theorem read_eq_iff {cs : List Char} {d : Draft} : read cs = ⟨d, true⟩ ↔ Spells cs d.tokens := by
  rw [read, tokens]
  constructor
  · intro h
    obtain ⟨htokens, hstray⟩ := tokens_of_readFrom (show Place.Fits [] .value from trivial) h
    obtain ⟨ts, hts, hspells⟩ := exists_spells_of_tokensFrom hstray
    rw [← htokens, hts]
    exact hspells
  · intro h
    have hsep := separated_tokens d endsValue_nil
    rw [List.append_nil] at hsep
    have hread := readFrom_tokens d (not_mem_stray h) [] []
    rw [List.append_nil] at hread
    rw [tokensFrom_of_spells h hsep, List.reverse_nil, List.nil_append, hread]
    rfl

/-- Of a text that spells a tree, the tree alone is decoded. -/
theorem decodeText_of_spells {α : Type} (f : Decoder α) {cs : List Char} {d : Draft}
    (h : Spells cs d.tokens) : f.decodeText cs = f d := by
  rw [Decoder.decodeText, read_eq_iff.mpr h]
  simp only [if_true]
  cases f d <;> rfl

/-- What is decoded from a text is decoded from a tree that the text spells. -/
theorem decodeText_eq_ok_iff {α : Type} {f : Decoder α} {cs : List Char} {a : α} :
    f.decodeText cs = .ok a ↔ ∃ d : Draft, Spells cs d.tokens ∧ f d = .ok a := by
  constructor
  · intro h
    cases hread : read cs with
    | mk d ended =>
      rw [Decoder.decodeText, hread] at h
      cases hd : f d with
      | error e =>
        simp only [hd] at h
        cases h
      | ok a' =>
        cases ended with
        | false =>
          simp only [hd] at h
          cases h
        | true =>
          simp only [hd] at h
          cases h
          exact ⟨d, read_eq_iff.mp hread, hd⟩
  · rintro ⟨d, hspells, hd⟩
    rw [decodeText_of_spells f hspells, hd]

end NearbyBeacons.Json
