import Mathlib.Data.List.Basic
import NearbyBeacons.Proofs.Settings.Names
import NearbyBeacons.Proofs.Text.Lowercase
/-!
# Variables that hold settings

The name of a variable that holds a setting is a row of words with double underscores between
them (`Environment.words?`). Laid over other settings, such a variable replaces one member of
the topmost table, and that of a section only if its words are the section and a key
(`assign_words`).
-/

namespace NearbyBeacons

/-! ### Words -/

/-- The words of a name, between its double underscores. -/
def wordsOf : List Char → List (List Char)
  | '_' :: '_' :: rest => [] :: wordsOf rest
  | c :: rest => match wordsOf rest with
    | word :: words => (c :: word) :: words
    | [] => [[c]]
  | [] => [[]]

/-- A text that no part of a path begins or ends in: it holds no point and no bracket, and no
dollar sign, which marks dates. -/
def IsWord (cs : List Char) : Prop := '.' ∉ cs ∧ '[' ∉ cs ∧ '$' ∉ cs

instance (cs : List Char) : Decidable (IsWord cs) := inferInstanceAs (Decidable (_ ∧ _ ∧ _))

/-- `words` with `mark` in front of each of them but the first. -/
def joinedBy (mark : List Char) : List (List Char) → List Char
  | [] => []
  | word :: words => word ++ words.flatMap (mark ++ ·)

theorem wordsOf_ne_nil (cs : List Char) : wordsOf cs ≠ [] := by
  fun_cases wordsOf cs <;> simp

/-- The words and the underscores between them make the name. -/
theorem joinedBy_wordsOf (cs : List Char) : joinedBy ['_', '_'] (wordsOf cs) = cs := by
  fun_induction wordsOf cs with
  | case1 rest ih =>
    obtain ⟨word, words, hwords⟩ := List.exists_cons_of_ne_nil (wordsOf_ne_nil rest)
    rw [hwords] at ih ⊢
    simpa [joinedBy] using ih
  | case2 c rest _ word words hwords ih =>
    rw [hwords] at ih
    simpa [joinedBy] using ih
  | case3 c rest _ hwords => exact absurd hwords (wordsOf_ne_nil rest)
  | case4 => rfl

theorem joinByPoints_eq (cs : List Char) :
    Environment.joinByPoints cs = joinedBy ['.'] (wordsOf cs) := by
  fun_induction wordsOf cs with
  | case1 rest ih =>
    obtain ⟨word, words, hwords⟩ := List.exists_cons_of_ne_nil (wordsOf_ne_nil rest)
    rw [hwords] at ih ⊢
    simp [Environment.joinByPoints, ih, joinedBy]
  | case2 c rest hne word words hwords ih =>
    rw [hwords] at ih
    rw [Environment.joinByPoints, ih]
    · rfl
    · exact hne
  | case3 c rest _ hwords => exact absurd hwords (wordsOf_ne_nil rest)
  | case4 => rfl

theorem mem_of_mem_wordsOf {cs word : List Char} (h : word ∈ wordsOf cs) {c : Char}
    (hc : c ∈ word) : c ∈ cs := by
  rw [← joinedBy_wordsOf cs]
  cases hwords : wordsOf cs with
  | nil => exact absurd hwords (wordsOf_ne_nil cs)
  | cons first words =>
    rw [hwords] at h
    rcases List.mem_cons.mp h with rfl | h
    · exact List.mem_append_left _ hc
    · exact List.mem_append_right _ (List.mem_flatMap.mpr ⟨word, h, List.mem_append_right _ hc⟩)

namespace Environment

/-- The words of the name of a variable, in lower case and without the one that all variables
that hold settings begin with; `none` for the other variables. -/
def words? (name : String) : Option (List (List Char)) :=
  let cs := Text.lowercase name.toList
  if namespaceOfSettings <+: cs then some (wordsOf (cs.drop namespaceOfSettings.length)) else none

theorem settingKey?_eq (name : String) :
    settingKey? name = (words? name).map fun words => String.ofList (joinedBy ['.'] words) := by
  rw [settingKey?, words?]
  simp only [List.isPrefixOf_iff_prefix, joinByPoints_eq]
  split <;> rfl

/-- The words tell how a name is spelt, letter case aside. -/
theorem lowercase_eq_of_words? {name name' : String} {words : List (List Char)}
    (h : words? name = some words) (h' : words? name' = some words) :
    Text.lowercase name.toList = Text.lowercase name'.toList := by
  have hspelt : ∀ {n : String}, words? n = some words →
      Text.lowercase n.toList = namespaceOfSettings ++ joinedBy ['_', '_'] words := by
    intro n hn
    rw [words?] at hn
    split at hn
    · next hprefix =>
      obtain ⟨rest, hrest⟩ := hprefix
      rw [← Option.some.inj hn, joinedBy_wordsOf, ← hrest, List.drop_left]
    · cases hn
  rw [hspelt h, hspelt h']

theorem exists_words_of_words? {name : String} {words : List (List Char)}
    (h : words? name = some words) : words ≠ [] ∧
      ∀ word ∈ words, ∀ c ∈ word, ¬Text.HasAsciiPartner c := by
  rw [words?] at h
  split at h
  · rw [← Option.some.inj h]
    refine ⟨wordsOf_ne_nil _, fun word hword c hc => ?_⟩
    have hmem := List.mem_of_mem_drop (mem_of_mem_wordsOf hword hc)
    exact Text.not_hasAsciiPartner_of_mem_lowercase hmem
  · cases h

end Environment

/-! ### Paths -/

namespace PathStep

/-- A name as paths have them. -/
def IsPathName (cs : List Char) : Prop := cs ≠ [] ∧ ∀ c ∈ cs, isNameChar c = true

instance (cs : List Char) : Decidable (IsPathName cs) := inferInstanceAs (Decidable (_ ∧ _))

theorem isPathName_of_isBare {name : String} (h : Toml.IsBare name) : IsPathName name.toList := by
  refine ⟨h.1, fun c hc => ?_⟩
  have hbare := h.forall_chars c hc
  simp only [Toml.isBareKeyChar, Bool.or_eq_true] at hbare
  simp only [isNameChar, Bool.or_eq_true]
  tauto

theorem laterSteps?_of_not_mark {c : Char} (hpoint : c ≠ '.') (hbracket : c ≠ '[')
    (cs : List Char) : laterSteps? (c :: cs) = none := by
  have hlater : later? (c :: cs) = none := by
    rw [later?]
    · exact fun _ h => hpoint (List.cons.inj h).1
    · exact fun _ h => hbracket (List.cons.inj h).1
  rw [laterSteps?, hlater]
  simp

/-- A word in front of points is read as a name, or else there is no path behind what is read. -/
theorem name?_word {word rest : List Char} (hword : IsWord word)
    (hrest : ∀ c ∈ rest.head?, c = '.') :
    (IsPathName word ∧ name? (word ++ rest) = some (.name (String.ofList word), rest)) ∨
      ¬IsPathName word ∧
        (name? (word ++ rest)).bind (fun (_, left) => laterSteps? left) = none := by
  have hend : ∀ c ∈ rest.head?, isNameChar c = false := by
    intro c hc
    rw [hrest c hc]
    decide
  by_cases hall : ∀ c ∈ word, isNameChar c = true
  · have htake := Text.takeWhile_run hall hend
    have hdrop := Text.dropWhile_run hall hend
    cases word with
    | nil =>
      right
      refine ⟨fun h => h.1 rfl, ?_⟩
      rw [name?, htake]
      rfl
    | cons c cs =>
      left
      refine ⟨⟨List.cons_ne_nil c cs, hall⟩, ?_⟩
      rw [name?, htake, hdrop]
  · right
    refine ⟨fun h => hall h.2, ?_⟩
    -- reading stops at the first character that names do not have, and it is no mark
    have hne : word.dropWhile isNameChar ≠ [] := fun hd => hall (List.dropWhile_eq_nil_iff.mp hd)
    obtain ⟨c, cs, hdrop⟩ := List.exists_cons_of_ne_nil hne
    have hc : c ∈ word := (List.dropWhile_sublist isNameChar).subset (hdrop ▸ List.mem_cons_self)
    have happend : (word ++ rest).dropWhile isNameChar = c :: (cs ++ rest) := by
      rw [List.dropWhile_append, hdrop]
      rfl
    rw [name?, happend]
    split
    · rfl
    · rw [Option.bind_some]
      apply laterSteps?_of_not_mark
      · rintro rfl
        exact hword.1 hc
      · rintro rfl
        exact hword.2.1 hc

theorem head?_flatMap_point (words : List (List Char)) :
    ∀ c ∈ (words.flatMap (['.'] ++ ·)).head?, c = '.' := by
  cases words with
  | nil => nofun
  | cons word words => exact fun c hc => (Option.some.inj hc).symm

theorem laterSteps?_words {words : List (List Char)} (hwords : ∀ w ∈ words, IsWord w) :
    laterSteps? (words.flatMap (['.'] ++ ·)) =
      if ∀ w ∈ words, IsPathName w then some (words.map fun w => .name (String.ofList w))
      else none := by
  induction words with
  | nil => rw [List.flatMap_nil, laterSteps?]; rfl
  | cons word words ih =>
    have ih := ih fun w hw => hwords w (List.mem_cons_of_mem _ hw)
    set rest := words.flatMap (['.'] ++ ·) with hrest
    have hcons : (word :: words).flatMap (['.'] ++ ·) = '.' :: (word ++ rest) := rfl
    have hlength : rest.length < ('.' :: (word ++ rest)).length := by
      simp only [List.length_cons, List.length_append]
      omega
    rw [hcons, laterSteps?, later?, List.isEmpty_cons, if_neg Bool.false_ne_true]
    rcases name?_word (hwords word List.mem_cons_self) (head?_flatMap_point words) with
      ⟨hname, hread⟩ | ⟨hname, hread⟩
    · rw [← hrest] at hread
      rw [hread]
      simp only [if_pos hlength, ih, List.forall_mem_cons, hname, true_and]
      split <;> rfl
    · rw [← hrest] at hread
      rw [if_neg fun h => hname (List.forall_mem_cons.mp h).1]
      cases hstep : name? (word ++ rest) with
      | none => rfl
      | some step =>
        rw [hstep, Option.bind_some] at hread
        simp only [hread]
        split <;> rfl

/-- Words with points between them are the path of their names, if paths have such names, and
else one name. -/
theorem ofKey_words {word : List Char} {words : List (List Char)}
    (hwords : ∀ w ∈ word :: words, IsWord w) :
    ofKey (String.ofList (joinedBy ['.'] (word :: words))) =
      if ∀ w ∈ word :: words, IsPathName w then
        (word :: words).map fun w => .name (String.ofList w)
      else [.name (String.ofList (joinedBy ['.'] (word :: words)))] := by
  obtain ⟨hword, hrest⟩ := List.forall_mem_cons.mp hwords
  rw [ofKey, String.toList_ofList]
  simp only [joinedBy]
  rcases name?_word hword (head?_flatMap_point words) with ⟨hname, hread⟩ | ⟨hname, hread⟩
  · rw [hread, Option.bind_eq_bind, Option.bind_some]
    simp only [laterSteps?_words hrest, List.forall_mem_cons, hname, true_and]
    split <;> rfl
  · rw [if_neg fun h => hname (List.forall_mem_cons.mp h).1]
    cases hstep : name? (word ++ words.flatMap (['.'] ++ ·)) with
    | none => rfl
    | some step =>
      rw [hstep, Option.bind_some] at hread
      simp only [Option.bind_eq_bind, Option.bind_some, hread]
      rfl

/-- A word is a path of one step. -/
theorem ofKey_of_isWord {key : String} (h : IsWord key.toList) : ofKey key = [.name key] := by
  have hkey : ofKey (String.ofList (joinedBy ['.'] [key.toList])) =
      if ∀ w ∈ [key.toList], IsPathName w then [key.toList].map fun w => .name (String.ofList w)
      else [.name (String.ofList (joinedBy ['.'] [key.toList]))] :=
    ofKey_words (List.forall_mem_singleton.mpr h)
  rw [joinedBy, List.flatMap_nil, List.append_nil, String.ofList_toList] at hkey
  rw [hkey]
  split
  · rw [List.map_singleton, String.ofList_toList]
  · rfl

end PathStep

/-! ### Writing along words -/

namespace Loose

theorem lookup_cons_eq {α : Type} (name name' : String) (v : α) (ms : List (String × α)) :
    ((name, v) :: ms).lookup name' = if name' = name then some v else ms.lookup name' := by
  rw [List.lookup_cons]
  by_cases h : name' = name
  · subst h
    simp
  · have hbeq : (name' == name) = false := beq_eq_false_iff_ne.mpr h
    rw [hbeq, if_neg h]

theorem lookup_putMember (name name' : String) (v : Loose) (ms : List (String × Loose)) :
    (putMember name v ms).lookup name' = if name' = name then some v else ms.lookup name' := by
  induction ms with
  | nil => rw [putMember, lookup_cons_eq]
  | cons entry ms ih =>
    obtain ⟨n, w⟩ := entry
    rw [putMember]
    split
    · next hn =>
      rw [hn, lookup_cons_eq, lookup_cons_eq]
      split <;> rfl
    · next hn =>
      rw [lookup_cons_eq, lookup_cons_eq, ih]
      by_cases h : name' = n
      · rw [if_pos h, if_pos h, if_neg fun heq => hn (h.symm.trans heq)]
      · rw [if_neg h, if_neg h]

@[simp] theorem member?_put (name name' : String) (v t : Loose) :
    (put name v t).member? name' = if name' = name then some v else t.member? name' :=
  lookup_putMember name name' v t.members

/-- Nothing is in the way of a path of names. -/
theorem exists_updateAt (f : Loose → Loose) (names : List String) (v : Loose) :
    ∃ w, updateAt (fun target => .ok (f target)) (names.map .name) v = .ok w := by
  induction names generalizing v with
  | nil => exact ⟨f v, rfl⟩
  | cons name names ih =>
    obtain ⟨w, hw⟩ := ih ((v.member? (Text.lowercaseText name)).getD nil)
    exact ⟨put (Text.lowercaseText name) w v, by rw [List.map_cons, updateAt, hw]; rfl⟩

/-- A text laid over what a path of names leads to replaces the member of the first name, and
what that member holds under the second one, if there are two. -/
theorem exists_assign (name : String) (names : List String) (s : String) (root : Loose) :
    ∃ v, assign ((name :: names).map .name) (.string s) root =
        .ok (put (Text.lowercaseText name) v root) ∧
      ∀ key, names = [key] → v = put (Text.lowercaseText key) (.string s)
        ((root.member? (Text.lowercaseText name)).getD nil) := by
  have hoverlay : ∀ n target, overlay n (.string s) target =
      put (Text.lowercaseText n) (.string s) target := by
    intro n target
    rw [overlay]
    nofun
  rcases List.eq_nil_or_concat names with rfl | ⟨inner, last, rfl⟩
  · refine ⟨.string s, ?_, nofun⟩
    rw [← hoverlay]
    rfl
  · rw [List.concat_eq_append]
    have hassign : assign ((name :: (inner ++ [last])).map .name) (.string s) root =
        updateAt (fun target => .ok (overlay last (.string s) target))
          ((name :: inner).map .name) root := by
      rw [assign, ← List.cons_append, List.map_append, List.map_singleton, List.getLast?_concat,
        List.dropLast_concat]
    obtain ⟨v, hv⟩ := exists_updateAt (overlay last (.string s)) inner
      ((root.member? (Text.lowercaseText name)).getD nil)
    refine ⟨v, ?_, fun key hkey => ?_⟩
    · rw [hassign, List.map_cons, updateAt, hv]
      rfl
    · obtain ⟨rfl, hlast⟩ : inner = [] ∧ last = key := by
        cases inner with
        | nil => exact ⟨rfl, (List.cons.inj hkey).1⟩
        | cons first inner => simp at hkey
      rw [← hlast, ← hoverlay]
      exact (Except.ok.inj hv).symm

/-- The characters of a bare name are in ASCII. -/
theorem toNat_lt_of_isBare {name : String} (h : Toml.IsBare name) :
    ∀ c ∈ name.toList, c.toNat < 128 := by
  intro c hc
  have hbare := h.forall_chars c hc
  have hupper : c.isUpper = true → c.toNat ≤ 'Z'.toNat := fun hc => (of_decide_eq_true hc).2
  have hlower : c.isLower = true → c.toNat ≤ 'z'.toNat := fun hc =>
    of_decide_eq_true (Bool.and_eq_true_iff.mp hc).2
  have hdigit : c.isDigit = true → c.toNat ≤ '9'.toNat := fun hc =>
    of_decide_eq_true (Bool.and_eq_true_iff.mp hc).2
  have hkinds : c.isAlphanum = (c.isUpper || c.isLower || c.isDigit) := rfl
  simp only [Toml.isBareKeyChar, hkinds, Bool.or_eq_true, beq_iff_eq] at hbare
  rcases hbare with (((hc | hc) | hc) | rfl) | rfl
  · exact lt_of_le_of_lt (hupper hc) (by decide)
  · exact lt_of_le_of_lt (hlower hc) (by decide)
  · exact lt_of_le_of_lt (hdigit hc) (by decide)
  · decide
  · decide

/-- What comes to a bare name in lower case, and is in lower case already, is that name. -/
theorem eq_of_lowercaseText_eq {cs : List Char} {name : String} (hname : Toml.IsBare name)
    (hcs : ∀ c ∈ cs, ¬Text.HasAsciiPartner c)
    (h : Text.lowercaseText (String.ofList cs) = name) : name.toList = cs := by
  rw [← h, Text.lowercaseText, String.toList_ofList, String.toList_ofList]
  apply Text.lowercase_eq_self_of_ascii hcs
  intro d hd
  apply toNat_lt_of_isBare hname d
  rw [← h, Text.lowercaseText, String.toList_ofList, String.toList_ofList]
  exact hd

theorem not_hasAsciiPartner_of_mem_joined {word : List Char} {words : List (List Char)}
    (h : ∀ w ∈ word :: words, ∀ c ∈ w, ¬Text.HasAsciiPartner c) :
    ∀ c ∈ joinedBy ['.'] (word :: words), ¬Text.HasAsciiPartner c := by
  intro c hc
  rcases List.mem_append.mp hc with hc | hc
  · exact h word List.mem_cons_self c hc
  · obtain ⟨w, hw, hc⟩ := List.mem_flatMap.mp hc
    rcases List.mem_append.mp hc with hc | hc
    · rw [List.mem_singleton.mp hc]
      simp [Text.HasAsciiPartner]
    · exact h w (List.mem_cons_of_mem word hw) c hc

/-- A bare name holds no point, so it is one word. -/
theorem eq_nil_of_joined_isBare {name : String} (hname : Toml.IsBare name) {word : List Char}
    {words : List (List Char)} (h : name.toList = joinedBy ['.'] (word :: words)) :
    words = [] ∧ name.toList = word := by
  have hpoint : '.' ∉ name.toList := by
    intro hc
    exact Text.ne_of_kind (hname.forall_chars '.' hc) (by decide) rfl
  cases words with
  | nil =>
    rw [joinedBy, List.flatMap_nil, List.append_nil] at h
    exact ⟨rfl, h⟩
  | cons second words =>
    rw [h] at hpoint
    exact absurd (by simp [joinedBy]) hpoint

/-- A text laid over what words lead to replaces one member, which is the one that the first
word names if it has a bare name, and in it what the second word names, if there are two. -/
theorem assign_words {word : List Char} {words : List (List Char)}
    (hwords : ∀ w ∈ word :: words, IsWord w)
    (hlower : ∀ w ∈ word :: words, ∀ c ∈ w, ¬Text.HasAsciiPartner c) (s : String)
    (root : Loose) :
    ∃ name v, assign (PathStep.ofKey (String.ofList (joinedBy ['.'] (word :: words)))) (.string s)
        root = .ok (put name v root) ∧
      ((∀ w ∈ word :: words, PathStep.IsPathName w) →
        name = Text.lowercaseText (String.ofList word)) ∧
      (Toml.IsBare name → name.toList = word ∧ ∀ key, words = [key] →
        v = put (Text.lowercaseText (String.ofList key)) (.string s)
          ((root.member? name).getD nil)) := by
  rw [PathStep.ofKey_words hwords]
  split
  · obtain ⟨v, hassign, hv⟩ := exists_assign (String.ofList word) (words.map String.ofList) s root
    refine ⟨Text.lowercaseText (String.ofList word), v, ?_, fun _ => rfl, fun hname =>
      ⟨?_, fun key hkey => ?_⟩⟩
    · rw [← hassign, ← List.map_cons (f := String.ofList), List.map_map]
      rfl
    · exact eq_of_lowercaseText_eq hname (hlower word List.mem_cons_self) rfl
    · exact hv (String.ofList key) (by rw [hkey]; rfl)
  · next hnames =>
    set joined := joinedBy ['.'] (word :: words) with hjoined
    obtain ⟨v, hassign, -⟩ := exists_assign (String.ofList joined) [] s root
    refine ⟨Text.lowercaseText (String.ofList joined), v, hassign, fun h => absurd h hnames,
      fun hname => absurd ?_ hnames⟩
    have hbare := eq_of_lowercaseText_eq hname (not_hasAsciiPartner_of_mem_joined hlower) rfl
    obtain ⟨rfl, hword⟩ := eq_nil_of_joined_isBare hname hbare
    intro w hw
    rw [List.mem_singleton.mp hw, ← hword]
    exact PathStep.isPathName_of_isBare hname

end Loose

end NearbyBeacons
