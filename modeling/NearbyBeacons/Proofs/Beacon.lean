import NearbyBeacons.Beacon
import NearbyBeacons.Proofs.Text.Ascii
import NearbyBeacons.Proofs.Text.Context
import NearbyBeacons.Proofs.Text.LetterCase
/-!
# What a query finds

A query is looked for in the address without its colons and in the UID. Query and text are brought
to lower case separately, then one is looked for in the other (`matchesQuery_iff`).

Three things follow. A query need not be found where it is literally there: the queries that
always are are those that settle their sigmas (`matches_literal_iff`). Where such a query is part of
another one, it finds what the other one finds (`matchesQuery_of_part`). And the case of ASCII
letters makes no difference, in the query or in the beacon (`matchesQuery_congr`).
-/

namespace NearbyBeacons.Beacon

/-- The texts that a query is looked for in: the address without its colons, and the UID. -/
def searched (b : Beacon) : List (List Char) :=
  b.address.toList.filter (· != ':') :: (b.uidFrame.uid.map String.toList).toList

/-- A beacon matches a query when the lower case of the query is part of the lower case of one of
its texts. That of the empty query always is. -/
theorem matchesQuery_iff {b : Beacon} {query : String} :
    b.matchesQuery (some query) = true ↔
      ∃ text ∈ b.searched, Text.lowercase query.toList <:+: Text.lowercase text := by
  have hcontains : b.contains (Text.lowercase query.toList) = true ↔
      ∃ text ∈ b.searched, Text.lowercase query.toList <:+: Text.lowercase text := by
    rw [contains, Bool.or_eq_true, Text.occursIn_iff, searchableAddress, searched]
    cases b.uidFrame.uid <;> simp [Text.occursIn_iff]
  rw [matchesQuery, Bool.or_eq_true, hcontains]
  refine or_iff_right_of_imp fun hempty => ?_
  rw [String.isEmpty_iff] at hempty
  exact ⟨_, List.mem_cons_self, by simp [hempty, Text.lowercase, Text.lowercaseFrom]⟩

/-! ### Literal queries -/

/-- A text of the beacon holds the query, letter by letter. -/
def Holds (b : Beacon) (query : String) : Prop :=
  ∃ text ∈ b.searched, query.toList <:+: text

/-- A beacon with the given address and UID. -/
def ofTexts (address uid : String) : Beacon :=
  { seenAt address 0 ⟨0, 0, by decide, by decide, by decide, by decide⟩ with
    hasUidFrame := true
    uidFrame := { uid := some uid } }

theorem searched_ofTexts (address uid : String) :
    (ofTexts address uid).searched = [address.toList.filter (· != ':'), uid.toList] := rfl

/-- **Which queries find whatever literally holds them.** Every beacon that holds a query matches
it exactly when each sigma of the query is settled by the query itself: when the characters before
the sigma are not all looked past or a cased letter follows, and when the characters behind it are
not all looked past or no cased letter precedes. -/
theorem matches_literal_iff (query : String) :
    (∀ b : Beacon, b.Holds query → b.matchesQuery (some query) = true) ↔
      Text.settlesSigmas query.toList = true := by
  constructor
  -- a UID may be any text
  · intro h
    rw [Text.settlesSigmas_iff]
    intro text hpart
    let b := ofTexts "" (String.ofList text)
    have hsearched : b.searched = [[], text] := by simp [b, searched_ofTexts]
    have hholds : b.Holds query := ⟨text, by simp [hsearched], hpart⟩
    obtain ⟨found, hfound, hinfix⟩ := matchesQuery_iff.mp (h b hholds)
    rw [hsearched, List.mem_cons, List.mem_singleton] at hfound
    rcases hfound with rfl | rfl
    · have hnil : Text.lowercase query.toList = [] := List.infix_nil.mp hinfix
      rw [hnil]
      exact List.nil_infix
    · exact hinfix
  · rintro h b ⟨text, htext, hpart⟩
    exact matchesQuery_iff.mpr ⟨text, htext, Text.lowercase_isInfix_of_settlesSigmas h hpart⟩

/-- A sigma that the query settles, at its own beginning, is found inside a word. -/
theorem matches_settled_sigma :
    let b := ofTexts "AA:BB:CC:DD:EE:FF" "ΟΔΟΣΑ"
    Text.settlesSigmas "ΣΑ".toList = true ∧ b.Holds "ΣΑ" ∧
      b.matchesQuery (some "ΣΑ") = true := by
  intro b
  have hsettled : Text.settlesSigmas "ΣΑ".toList = true := by decide +kernel
  have hholds : b.Holds "ΣΑ" := ⟨"ΟΔΟΣΑ".toList, by simp [b, searched_ofTexts], by decide +kernel⟩
  exact ⟨hsettled, hholds, (matches_literal_iff "ΣΑ").mpr hsettled b hholds⟩

/-- A lone sigma is not found at the end of a word that is written with it. -/
theorem misses_final_sigma :
    let b := ofTexts "AA:BB:CC:DD:EE:FF" "ΟΔΟΣ"
    "Σ" ≠ "" ∧ b.Holds "Σ" ∧ b.matchesQuery (some "Σ") = false := by
  intro b
  have hholds : b.Holds "Σ" := ⟨"ΟΔΟΣ".toList, by simp [b, searched_ofTexts], by decide +kernel⟩
  exact ⟨by decide, hholds, by decide +kernel⟩

/-! ### Longer queries -/

/-- A query that settles its sigmas finds what any longer query with it finds. -/
theorem matchesQuery_of_part {b : Beacon} {part query : String}
    (hsettled : Text.settlesSigmas part.toList = true) (hpart : part.toList <:+: query.toList)
    (h : b.matchesQuery (some query) = true) : b.matchesQuery (some part) = true := by
  obtain ⟨text, htext, hinfix⟩ := matchesQuery_iff.mp h
  have hlower := Text.lowercase_isInfix_of_settlesSigmas hsettled hpart
  exact matchesQuery_iff.mpr ⟨text, htext, hlower.trans hinfix⟩

/-! ### Letter case -/

theorem toLower_bne_colon (c : Char) : (c.toLower != ':') = (c != ':') :=
  Text.forall_toLower (P := fun d c => (d != ':') = (c != ':')) (fun _ => rfl) (by decide +kernel) c

/-- Removing the colons of a text and changing the case of its letters can be done in any order. -/
theorem map_toLower_filter_bne_colon (cs : List Char) :
    (cs.filter (· != ':')).map Char.toLower = (cs.map Char.toLower).filter (· != ':') := by
  rw [List.filter_map]
  congr 2
  funext c
  exact (toLower_bne_colon c).symm

/-- The lower case of the texts of a beacon can be read from the texts with their ASCII letters in
lower case. -/
theorem map_lowercase_searched (b : Beacon) :
    b.searched.map Text.lowercase =
      Text.lowercase ((Ascii.lower b.address).toList.filter (· != ':')) ::
        ((b.uidFrame.uid.map Ascii.lower).map fun uid => Text.lowercase uid.toList).toList := by
  rw [searched, List.map_cons]
  congr 1
  · rw [Ascii.toList_lower, ← map_toLower_filter_bne_colon, Text.lowercase_map_toLower]
  · cases b.uidFrame.uid <;> simp [Text.lowercase_map_toLower]

/-- Whether a beacon matches a query does not depend on the case of ASCII letters, in the address,
the UID or the query. -/
theorem matchesQuery_congr {b b' : Beacon} {query query' : Option String}
    (haddress : Ascii.lower b.address = Ascii.lower b'.address)
    (huid : b.uidFrame.uid.map Ascii.lower = b'.uidFrame.uid.map Ascii.lower)
    (hquery : query.map Ascii.lower = query'.map Ascii.lower) :
    b.matchesQuery query = b'.matchesQuery query' := by
  have htexts : b.searched.map Text.lowercase = b'.searched.map Text.lowercase := by
    rw [map_lowercase_searched, map_lowercase_searched, haddress, huid]
  have hmatches : ∀ (c : Beacon) (q : String), c.matchesQuery (some q) = true ↔
      ∃ text ∈ c.searched.map Text.lowercase, Text.lowercase q.toList <:+: text := by
    intro c q
    simp [matchesQuery_iff]
  cases query with
  | none =>
    cases query' with
    | none => rfl
    | some q' => simp at hquery
  | some q =>
    cases query' with
    | none => simp at hquery
    | some q' =>
      have hneedle : Text.lowercase q.toList = Text.lowercase q'.toList := by
        apply Text.lowercase_congr
        rw [← Ascii.toList_lower, Option.some.inj hquery, Ascii.toList_lower]
      rw [Bool.eq_iff_iff, hmatches, hmatches, htexts, hneedle]

end NearbyBeacons.Beacon
