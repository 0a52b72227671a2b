import Mathlib.Data.List.Basic
import NearbyBeacons.Proofs.Settings.Layers
import NearbyBeacons.Proofs.Settings.Variables
import NearbyBeacons.Settings.Load
/-!
# Settings field by field

Every field is decided by the variable of its own name, or else by its key in the file, or else
by its default (`loadFrom_field_by_field`). What else the file and the environment hold is of no
consequence.

The layers are followed through one look: what the topmost table holds under a section and a key
(`Loose.fieldAt?`). The file fills it member by member, and a variable changes it at its own
place only (`exists_layer_settings`).
-/

namespace NearbyBeacons

namespace Toml

/-! ### Files -/

mutual

/-- The names of all members in a value, at every depth. -/
def Value.names : Value → List String
  | .array items => itemNames items
  | .table _ members => memberNames members
  | .tables earlier last => tableNames earlier ++ memberNames last
  | _ => []

/-- The names in all items. -/
def itemNames : List Value → List String
  | [] => []
  | v :: rest => v.names ++ itemNames rest

/-- The names of members and those in their values. -/
def memberNames : List (String × Value) → List String
  | [] => []
  | (name, v) :: rest => name :: v.names ++ memberNames rest

/-- The names in all tables. -/
def tableNames : List (List (String × Value)) → List String
  | [] => []
  | members :: rest => memberNames members ++ tableNames rest

end

end Toml

namespace Settings

/-- The names of the four sections. -/
def sectionNames : List String := ["server", "tracking", "display", "logging"]

/-- The value of the member that has a name, letter case aside. -/
def memberNamed? {α : Type} (name : String) (members : List (String × α)) : Option α :=
  (members.find? fun entry => Text.lowercaseText entry.1 == name).map (·.2)

/-- The names of members, letter case aside, are different. -/
def HasDistinctNames {α : Type} (members : List (String × α)) : Prop :=
  (members.map fun entry => Text.lowercaseText entry.1).Nodup

/-- A file in which every section is a table or missing, the names are words, and no two names
of the whole and of a section differ in letter case only. -/
structure IsPlainFile (file : Toml.Members) : Prop where
  words : ∀ name ∈ Toml.memberNames file, IsWord name.toList
  distinct : HasDistinctNames file
  sections : ∀ sec ∈ sectionNames, ∀ v, memberNamed? sec file = some v →
    ∃ origin inner, v = .table origin inner ∧ HasDistinctNames inner

/-- Variables with different names, letter case aside. Those that hold settings are named by
words, and if the first one is a section, there is just one more, the key. -/
structure IsPlainEnvironment (env : Environment) : Prop where
  distinct : HasDistinctNames env
  words : ∀ entry ∈ env, ∀ words, Environment.words? entry.1 = some words →
    ∀ word ∈ words, IsWord word
  sections : ∀ entry ∈ env, ∀ sec words, Environment.words? entry.1 = some (sec :: words) →
    String.ofList sec ∈ sectionNames → ∃ key, words = [key]

/-- What the environment says about a field. -/
def environmentValue? (env : Environment) (sec key : String) : Option String :=
  (env.find? fun entry => Environment.words? entry.1 == some [sec.toList, key.toList]).map (·.2)

/-- What a file says about a field. -/
def fileValue? (file : Toml.Members) (sec key : String) : Option Toml.Value :=
  match memberNamed? sec file with
  | some (.table _ inner) => memberNamed? key inner
  | _ => none

/-- What decides a field: the variable of its name, or else the value in the file. -/
def source? (file : Toml.Members) (env : Environment) (sec key : String) : Option Loose :=
  match environmentValue? env sec key with
  | some s => some (.string s)
  | none => (fileValue? file sec key).bind Loose.ofToml?

/-- What becomes of a field whose type makes of values what `convert` does. -/
def converted? {α : Type} (absent : α) (convert : Loose → Option α) : Option Loose → Option α
  | none => some absent
  | some v => convert v

/-- Each field of `s` is what becomes of its own source. -/
@[mk_iff]
structure Follows (source : String → String → Option Loose) (s : Settings) : Prop where
  host : converted? (.v4 0 0 0 0) Loose.toAddress? (source "server" "host") = some s.server.host
  port : converted? 3000 Loose.toUInt16? (source "server" "port") = some s.server.port
  staleTimeout : converted? 10 Loose.toUInt64? (source "tracking" "stale_timeout_secs") =
    some s.tracking.staleTimeoutSecs
  expiryInterval : converted? 1 Loose.toUInt64? (source "tracking" "expiry_interval_secs") =
    some s.tracking.expiryIntervalSecs
  distanceUnknown : converted? "Unknown" Loose.toText? (source "display" "distance_unknown") =
    some s.display.distanceUnknown
  txPowerUnknown : converted? "Unknown" Loose.toText? (source "display" "tx_power_unknown") =
    some s.display.txPowerUnknown
  distanceUnit : converted? "meters" Loose.toText? (source "display" "distance_unit") =
    some s.display.distanceUnit
  level : converted? "info" Loose.toText? (source "logging" "level") = some s.logging.level
  production : converted? false Loose.toBool? (source "logging" "production") =
    some s.logging.production

/-- The nine fields: their sections and keys, and whether their types take a value. -/
def fieldTypes : List (String × String × (Loose → Bool)) :=
  [("server", "host", (·.toAddress?.isSome)), ("server", "port", (·.toUInt16?.isSome)),
    ("tracking", "stale_timeout_secs", (·.toUInt64?.isSome)),
    ("tracking", "expiry_interval_secs", (·.toUInt64?.isSome)),
    ("display", "distance_unknown", (·.toText?.isSome)),
    ("display", "tx_power_unknown", (·.toText?.isSome)),
    ("display", "distance_unit", (·.toText?.isSome)), ("logging", "level", (·.toText?.isSome)),
    ("logging", "production", (·.toBool?.isSome))]

end Settings

namespace Loose

/-! ### The file as a source -/

theorem mem_memberNames {members : Toml.Members} {name : String}
    (h : name ∈ members.map Prod.fst) : name ∈ Toml.memberNames members := by
  induction members with
  | nil => cases h
  | cons entry members ih =>
    rw [List.map_cons, List.mem_cons] at h
    rw [Toml.memberNames, List.cons_append, List.mem_cons, List.mem_append]
    exact h.imp id fun hrest => .inr (ih hrest)

theorem ofTable?_of_isWord {members : Toml.Members}
    (h : ∀ name ∈ Toml.memberNames members, IsWord name.toList) :
    ofTable? members = (ofMembers? members).map table := by
  apply ofTable?_eq
  intro name hname heq
  -- the mark begins with a dollar sign
  exact (heq ▸ h name (mem_memberNames hname)).2.2 (by decide)

mutual

/-- Only a name that is no word marks a table as a date, so every value of words is loose. -/
theorem exists_ofToml? : ∀ v : Toml.Value, (∀ name ∈ v.names, IsWord name.toList) →
    ∃ w, ofToml? v = some w
  | .string s, _ => ⟨.string s, by rw [ofToml?]⟩
  | .integer n, _ => ⟨.integer n, by rw [ofToml?]⟩
  | .float x, _ => ⟨.real x, by rw [ofToml?]⟩
  | .bool b, _ => ⟨.bool b, by rw [ofToml?]⟩
  | .moment text, _ => ⟨.string text, by rw [ofToml?]⟩
  | .array items, h => by
    obtain ⟨ws, hws⟩ := exists_ofItems? items (by simpa [Toml.Value.names] using h)
    exact ⟨.array ws, by rw [ofToml?, hws]; rfl⟩
  | .table origin members, h => by
    obtain ⟨ws, hws⟩ := exists_ofTable? members (by simpa [Toml.Value.names] using h)
    exact ⟨.table ws, by rw [ofToml?, hws]⟩
  | .tables earlier last, h => by
    rw [Toml.Value.names, List.forall_mem_append] at h
    obtain ⟨ws, hws⟩ := exists_ofTables? earlier h.1
    obtain ⟨w, hw⟩ := exists_ofTable? last h.2
    exact ⟨.array (ws ++ [.table w]), by rw [ofToml?, hws, hw]; rfl⟩

theorem exists_ofItems? : ∀ items : List Toml.Value,
    (∀ name ∈ Toml.itemNames items, IsWord name.toList) → ∃ ws, ofItems? items = some ws
  | [], _ => ⟨[], by rw [ofItems?]⟩
  | v :: rest, h => by
    rw [Toml.itemNames, List.forall_mem_append] at h
    obtain ⟨w, hw⟩ := exists_ofToml? v h.1
    obtain ⟨ws, hws⟩ := exists_ofItems? rest h.2
    exact ⟨w :: ws, by rw [ofItems?, hw, hws]; rfl⟩

theorem exists_ofMembers? : ∀ members : List (String × Toml.Value),
    (∀ name ∈ Toml.memberNames members, IsWord name.toList) → ∃ ws, ofMembers? members = some ws
  | [], _ => ⟨[], by rw [ofMembers?]⟩
  | (name, v) :: rest, h => by
    rw [Toml.memberNames, List.cons_append, List.forall_mem_cons, List.forall_mem_append] at h
    obtain ⟨w, hw⟩ := exists_ofToml? v h.2.1
    obtain ⟨ws, hws⟩ := exists_ofMembers? rest h.2.2
    exact ⟨(name, w) :: ws, by rw [ofMembers?, hw, hws]; rfl⟩

theorem exists_ofTable? (members : List (String × Toml.Value))
    (h : ∀ name ∈ Toml.memberNames members, IsWord name.toList) :
    ∃ ws, ofTable? members = some (.table ws) := by
  obtain ⟨ws, hws⟩ := exists_ofMembers? members h
  exact ⟨ws, by rw [ofTable?_of_isWord h, hws]; rfl⟩

theorem exists_ofTables? : ∀ tables : List (List (String × Toml.Value)),
    (∀ name ∈ Toml.tableNames tables, IsWord name.toList) → ∃ ws, ofTables? tables = some ws
  | [], _ => ⟨[], by rw [ofTables?]⟩
  | members :: rest, h => by
    rw [Toml.tableNames, List.forall_mem_append] at h
    obtain ⟨w, hw⟩ := exists_ofTable? members h.1
    obtain ⟨ws, hws⟩ := exists_ofTables? rest h.2
    exact ⟨.table w :: ws, by rw [ofTables?, hw, hws]; rfl⟩

end

open Settings

theorem memberNamed?_cons {α : Type} (name : String) (entry : String × α)
    (members : List (String × α)) : memberNamed? name (entry :: members) =
      if Text.lowercaseText entry.1 = name then some entry.2 else memberNamed? name members := by
  unfold memberNamed?
  rw [List.find?_cons]
  by_cases h : Text.lowercaseText entry.1 = name
  · simp [h]
  · have hbeq : (Text.lowercaseText entry.1 == name) = false := beq_eq_false_iff_ne.mpr h
    rw [hbeq, if_neg h]

theorem ofMembers?_cons {name : String} {v : Toml.Value} {members : Toml.Members}
    {ws : List (String × Loose)} (h : ofMembers? ((name, v) :: members) = some ws) :
    ∃ w rest, ofToml? v = some w ∧ ofMembers? members = some rest ∧ ws = (name, w) :: rest := by
  rw [ofMembers?] at h
  obtain ⟨w, hw, h⟩ := Option.bind_eq_some_iff.mp h
  obtain ⟨rest, hrest, h⟩ := Option.bind_eq_some_iff.mp h
  exact ⟨w, rest, hw, hrest, (Option.some.inj h).symm⟩

theorem map_fst_of_ofMembers? {members : Toml.Members} {ws : List (String × Loose)}
    (h : ofMembers? members = some ws) : ws.map Prod.fst = members.map Prod.fst := by
  induction members generalizing ws with
  | nil =>
    rw [ofMembers?] at h
    rw [← Option.some.inj h]
    rfl
  | cons entry members ih =>
    obtain ⟨w, rest, -, hrest, rfl⟩ := ofMembers?_cons h
    rw [List.map_cons, List.map_cons, ih hrest]

/-- A source has the same members as the file, each as a loose value. -/
theorem memberNamed?_of_ofMembers? {members : Toml.Members} {ws : List (String × Loose)}
    (h : ofMembers? members = some ws) (name : String) :
    (memberNamed? name members = none ∧ memberNamed? name ws = none) ∨
      ∃ v w, memberNamed? name members = some v ∧ ofToml? v = some w ∧
        memberNamed? name ws = some w := by
  induction members generalizing ws with
  | nil =>
    rw [ofMembers?] at h
    rw [← Option.some.inj h]
    exact .inl ⟨rfl, rfl⟩
  | cons entry members ih =>
    obtain ⟨n, v⟩ := entry
    obtain ⟨w, rest, hw, hrest, rfl⟩ := ofMembers?_cons h
    rw [memberNamed?_cons, memberNamed?_cons]
    by_cases hn : Text.lowercaseText n = name
    · rw [if_pos hn, if_pos hn]
      exact .inr ⟨v, w, rfl, hw, rfl⟩
    · rw [if_neg hn, if_neg hn]
      exact ih hrest

theorem names_of_memberNamed? {members : Toml.Members} {name : String} {v : Toml.Value}
    (h : memberNamed? name members = some v) : ∀ n ∈ v.names, n ∈ Toml.memberNames members := by
  intro n hn
  induction members with
  | nil => cases h
  | cons entry members ih =>
    rw [memberNamed?_cons] at h
    rw [Toml.memberNames, List.cons_append, List.mem_cons, List.mem_append]
    right
    split at h
    · left
      rw [Option.some.inj h]
      exact hn
    · exact .inr (ih h)

theorem member?_settledMembers (name : String) (ws : List (String × Loose)) :
    (table (settledMembers ws)).member? name = (memberNamed? name ws).map settled := by
  induction ws with
  | nil => rfl
  | cons entry ws ih =>
    have hcons : (table (settledMembers (entry :: ws))).member? name =
        if name = Text.lowercaseText entry.1 then some entry.2.settled
        else (table (settledMembers ws)).member? name := lookup_cons_eq _ _ _ _
    rw [hcons, memberNamed?_cons, ih]
    by_cases h : Text.lowercaseText entry.1 = name
    · rw [if_pos h, if_pos h.symm, Option.map_some]
    · rw [if_neg h, if_neg fun heq => h heq.symm]

theorem nodup_settledMembers {members : Toml.Members} {ws : List (String × Loose)}
    (h : ofMembers? members = some ws) (hdistinct : HasDistinctNames members) :
    ((settledMembers ws).map Prod.fst).Nodup := by
  have hnames : (settledMembers ws).map Prod.fst =
      members.map fun entry => Text.lowercaseText entry.1 := by
    have hmap := congrArg (List.map Text.lowercaseText) (map_fst_of_ofMembers? h)
    rw [List.map_map, List.map_map] at hmap
    rw [settledMembers, List.map_map]
    exact hmap
  rw [hnames]
  exact hdistinct

/-- A section that a file has is a table of loose values, which settles member by member. -/
theorem section_cases {file : Toml.Members} {source : List (String × Loose)}
    (hfile : IsPlainFile file) (hsource : ofMembers? file = some source) {sec : String}
    (hsec : sec ∈ sectionNames) :
    (memberNamed? sec file = none ∧ memberNamed? sec source = none) ∨
      ∃ origin inner ws, memberNamed? sec file = some (.table origin inner) ∧
        ofMembers? inner = some ws ∧ memberNamed? sec source = some (table ws) ∧
        settled (table ws) = table (settledMembers ws) := by
  rcases memberNamed?_of_ofMembers? hsource sec with hnone | ⟨v, w, hv, hw, hmember⟩
  · exact .inl hnone
  · right
    obtain ⟨origin, inner, rfl, hdistinct⟩ := hfile.sections sec hsec v hv
    have hwords : ∀ name ∈ Toml.memberNames inner, IsWord name.toList := by
      intro name hname
      apply hfile.words name
      apply names_of_memberNamed? hv
      rw [Toml.Value.names]
      exact hname
    obtain ⟨ws, hws⟩ := exists_ofMembers? inner hwords
    rw [ofToml?, ofTable?_of_isWord hwords, hws] at hw
    rw [← Option.some.inj hw] at hmember
    exact ⟨origin, inner, ws, hv, hws, hmember, settled_table (nodup_settledMembers hws hdistinct)⟩

/-- What the topmost table holds under a section and a key. -/
def fieldAt? (sec key : String) (root : Loose) : Option Loose :=
  (root.member? sec).bind (member? key)

/-- A table whose sections are tables. -/
structure HasSections (root : Loose) : Prop where
  isTable : ∃ ms, root = table ms
  sections : ∀ sec ∈ sectionNames, ∀ v, root.member? sec = some v → ∃ ms, v = table ms

/-- Laid over nothing, a file fills the topmost table with its fields. -/
theorem exists_layer_file {file : Toml.Members} (hfile : IsPlainFile file) :
    ∃ source root, ofTable? file = some (table source) ∧ (table []).layer source = .ok root ∧
      HasSections root ∧ ∀ sec ∈ sectionNames, ∀ key,
        root.fieldAt? sec key = ((fileValue? file sec key).bind ofToml?).map settled := by
  obtain ⟨source, hsource⟩ := exists_ofMembers? file hfile.words
  have htable : ofTable? file = some (table source) := by
    rw [ofTable?_of_isWord hfile.words, hsource]
    rfl
  have hkeys : ∀ key ∈ source.map Prod.fst, PathStep.ofKey key = [.name key] := by
    intro key hkey
    rw [map_fst_of_ofMembers? hsource] at hkey
    exact PathStep.ofKey_of_isWord (hfile.words key (mem_memberNames hkey))
  have hlayer : (table []).layer source = .ok (table ([] ++ settledMembers source)) :=
    layer_new hkeys (nodup_settledMembers hsource hfile.distinct)
  rw [List.nil_append] at hlayer
  refine ⟨source, _, htable, hlayer, ⟨⟨_, rfl⟩, ?sections⟩, ?fields⟩
  case sections =>
    intro sec hsec v hv
    rw [member?_settledMembers] at hv
    rcases section_cases hfile hsource hsec with ⟨-, hnone⟩ | ⟨_, _, ws, -, -, hsome, hsettled⟩
    · rw [hnone] at hv
      cases hv
    · rw [hsome, Option.map_some, hsettled] at hv
      exact ⟨settledMembers ws, (Option.some.inj hv).symm⟩
  case fields =>
    intro sec hsec key
    rw [fieldAt?, member?_settledMembers, fileValue?]
    rcases section_cases hfile hsource hsec with
      ⟨hnone, hnone'⟩ | ⟨origin, inner, ws, hfound, hws, hsome, hsettled⟩
    · rw [hnone, hnone']
      rfl
    · rw [hfound, hsome, Option.map_some, Option.bind_some, hsettled, member?_settledMembers]
      rcases memberNamed?_of_ofMembers? hws key with ⟨hnone, hnone'⟩ | ⟨v, w, hv, hw, hmember⟩
      · simp only [hnone, hnone', Option.bind_none]
      · simp only [hv, hmember, Option.bind_some, hw]

/-! ### The environment as a source -/

theorem isPlainName_of_mem_sectionNames {sec : String} (h : sec ∈ sectionNames) :
    IsPlainName sec := by
  have hall : ∀ sec ∈ sectionNames, IsPlainName sec := by decide
  exact hall sec h

/-- A word that is the same in lower case comes to a plain name only if it is that name. -/
theorem lowercaseText_eq_iff {name : String} (hname : IsPlainName name) {word : List Char}
    (hword : ∀ c ∈ word, ¬Text.HasAsciiPartner c) :
    name = Text.lowercaseText (String.ofList word) ↔ word = name.toList := by
  constructor
  · intro h
    exact (eq_of_lowercaseText_eq hname.1 hword h.symm).symm
  · intro h
    rw [h, String.ofList_toList, Text.lowercaseText_eq_self hname.2]

/-- The fields of a section are the members of its table, which is empty if it is missing. -/
theorem member?_getD_member? (root : Loose) (sec key : String) :
    ((root.member? sec).getD nil).member? key = root.fieldAt? sec key := by
  rw [fieldAt?]
  cases root.member? sec <;> rfl

/-- A variable that holds a setting changes the field of its own name and no other. -/
theorem exists_assign_variable {words : List (List Char)} {s : String} {root : Loose}
    (hroot : HasSections root) (hne : words ≠ []) (hwords : ∀ w ∈ words, IsWord w)
    (hlower : ∀ w ∈ words, ∀ c ∈ w, ¬Text.HasAsciiPartner c)
    (hform : ∀ sec rest, words = sec :: rest → String.ofList sec ∈ sectionNames →
      ∃ key, rest = [key]) :
    ∃ root', assign (PathStep.ofKey (String.ofList (joinedBy ['.'] words))) (.string s) root =
        .ok root' ∧ HasSections root' ∧ ∀ sec ∈ sectionNames, ∀ key, IsPlainName key →
          root'.fieldAt? sec key =
            if words = [sec.toList, key.toList] then some (.string s)
            else root.fieldAt? sec key := by
  obtain ⟨word, rest, rfl⟩ := List.exists_cons_of_ne_nil hne
  obtain ⟨name, v, hassign, hname, hbare⟩ := assign_words hwords hlower s root
  -- if the variable reaches a section, it gives it a key
  have hsection : name ∈ sectionNames → ∃ key, word :: rest = [name.toList, key] ∧
      v = put (Text.lowercaseText (String.ofList key)) (.string s)
        ((root.member? name).getD nil) := by
    intro hmem
    obtain ⟨hword, hv⟩ := hbare (isPlainName_of_mem_sectionNames hmem).1
    obtain ⟨key, hkey⟩ := hform word rest rfl (by rw [← hword, String.ofList_toList]; exact hmem)
    exact ⟨key, by rw [hword, hkey], hv key hkey⟩
  refine ⟨put name v root, hassign, ⟨⟨_, rfl⟩, ?sections⟩, ?fields⟩
  case sections =>
    intro sec hsec w hw
    rw [member?_put] at hw
    split at hw
    · next heq =>
      subst heq
      obtain ⟨key, -, hv⟩ := hsection hsec
      rw [← Option.some.inj hw, hv]
      exact ⟨_, rfl⟩
    · exact hroot.sections sec hsec w hw
  case fields =>
    intro sec hsec key hkey
    have hplain := isPlainName_of_mem_sectionNames hsec
    rw [fieldAt?, member?_put]
    by_cases heq : sec = name
    · subst heq
      obtain ⟨key', hrest, hv⟩ := hsection hsec
      have hkey' := lowercaseText_eq_iff hkey (hlower key' (by rw [hrest]; simp))
      rw [if_pos rfl, Option.bind_some, hv, member?_put, hrest, member?_getD_member?]
      simp only [hkey', List.cons.injEq, true_and, and_true]
    · have hother : word :: rest ≠ [sec.toList, key.toList] := by
        intro hwords'
        apply heq
        have hnames : ∀ w ∈ word :: rest, PathStep.IsPathName w := by
          rw [hwords', List.forall_mem_cons, List.forall_mem_singleton]
          exact ⟨PathStep.isPathName_of_isBare hplain.1, PathStep.isPathName_of_isBare hkey.1⟩
        rw [hname hnames, (List.cons.inj hwords').1, String.ofList_toList,
          Text.lowercaseText_eq_self hplain.2]
      rw [if_neg heq, if_neg hother]
      rfl

theorem settings_cons (name value : String) (env : Environment) :
    Environment.settings ((name, value) :: env) =
      ((Environment.words? name).map fun words =>
        (String.ofList (joinedBy ['.'] words), string value)).toList ++
          Environment.settings env := by
  have hkey := Environment.settingKey?_eq name
  rw [Environment.settings, List.filterMap_cons]
  simp only [hkey, Option.map_map]
  cases Environment.words? name <;> rfl

theorem environmentValue?_cons (name value : String) (env : Environment) (sec key : String) :
    environmentValue? ((name, value) :: env) sec key =
      if Environment.words? name = some [sec.toList, key.toList] then some value
      else environmentValue? env sec key := by
  unfold environmentValue?
  rw [List.find?_cons]
  by_cases h : Environment.words? name = some [sec.toList, key.toList]
  · simp [h]
  · have hbeq : (Environment.words? name == some [sec.toList, key.toList]) = false :=
      beq_eq_false_iff_ne.mpr h
    rw [hbeq, if_neg h]

/-- Of variables with different names, just one is about a field. -/
theorem environmentValue?_eq_none {name value : String} {env : Environment}
    (hdistinct : HasDistinctNames ((name, value) :: env)) {sec key : String}
    (h : Environment.words? name = some [sec.toList, key.toList]) :
    environmentValue? env sec key = none := by
  rw [environmentValue?, Option.map_eq_none_iff, List.find?_eq_none]
  intro entry hentry hwords
  have hsame : Text.lowercaseText name = Text.lowercaseText entry.1 := by
    rw [Text.lowercaseText, Text.lowercaseText,
      Environment.lowercase_eq_of_words? h (eq_of_beq hwords)]
  rw [HasDistinctNames, List.map_cons, List.nodup_cons] at hdistinct
  apply hdistinct.1
  show Text.lowercaseText name ∈ _
  rw [hsame]
  exact List.mem_map_of_mem hentry

theorem isPlainEnvironment_tail {entry : String × String} {env : Environment}
    (h : IsPlainEnvironment (entry :: env)) : IsPlainEnvironment env where
  distinct := (List.nodup_cons.mp h.distinct).2
  words := fun e he => h.words e (List.mem_cons_of_mem entry he)
  sections := fun e he => h.sections e (List.mem_cons_of_mem entry he)

/-- Laid over other settings, the environment replaces the fields that it has a value for. -/
theorem exists_layer_settings {env : Environment} (henv : IsPlainEnvironment env) {root : Loose}
    (hroot : HasSections root) :
    ∃ root', root.layer (Environment.settings env) = .ok root' ∧ HasSections root' ∧
      ∀ sec ∈ sectionNames, ∀ key, IsPlainName key → root'.fieldAt? sec key =
        ((environmentValue? env sec key).map string).or (root.fieldAt? sec key) := by
  induction env generalizing root with
  | nil => exact ⟨root, rfl, hroot, fun _ _ _ _ => rfl⟩
  | cons entry env ih =>
    obtain ⟨name, value⟩ := entry
    have htail := isPlainEnvironment_tail henv
    cases hname : Environment.words? name with
    | none =>
      have hsettings : Environment.settings ((name, value) :: env) = Environment.settings env := by
        rw [settings_cons, hname]
        rfl
      obtain ⟨root', hlayer, hroot', hfields⟩ := ih htail hroot
      refine ⟨root', hsettings ▸ hlayer, hroot', fun sec hsec key hkey => ?_⟩
      rw [environmentValue?_cons, hname, if_neg (by simp)]
      exact hfields sec hsec key hkey
    | some words =>
      have hsettings : Environment.settings ((name, value) :: env) =
          (String.ofList (joinedBy ['.'] words), .string value) :: Environment.settings env := by
        rw [settings_cons, hname]
        rfl
      obtain ⟨hne, hlower⟩ := Environment.exists_words_of_words? hname
      have hwords := henv.words _ List.mem_cons_self words hname
      have hform : ∀ sec rest, words = sec :: rest → String.ofList sec ∈ sectionNames →
          ∃ key, rest = [key] := by
        intro sec rest heq
        exact henv.sections _ List.mem_cons_self sec rest (heq ▸ hname)
      obtain ⟨between, hassign, hbetween, hfield⟩ :=
        exists_assign_variable (s := value) hroot hne hwords hlower hform
      obtain ⟨root', hlayer, hroot', hfields⟩ := ih htail hbetween
      refine ⟨root', ?_, hroot', fun sec hsec key hkey => ?_⟩
      · rw [hsettings, layer_cons, hassign]
        exact hlayer
      · rw [hfields sec hsec key hkey, hfield sec hsec key hkey, environmentValue?_cons, hname]
        by_cases heq : words = [sec.toList, key.toList]
        · rw [if_pos heq, if_pos (congrArg some heq),
            environmentValue?_eq_none henv.distinct (hname.trans (congrArg some heq))]
          rfl
        · rw [if_neg heq, if_neg fun h => heq (Option.some.inj h)]

/-! ### Fields of their types -/

theorem exists_overlayAll (ms done : List (String × Loose)) :
    ∃ ms', overlayAll ms (table done) = table ms' := by
  induction ms generalizing done with
  | nil => exact ⟨done, by rw [overlayAll]⟩
  | cons entry ms ih =>
    obtain ⟨name, v⟩ := entry
    have hput : ∃ ms', overlay name v (table done) = table ms' := by
      rw [overlay.eq_def]
      cases v <;> exact ⟨_, rfl⟩
    obtain ⟨ms', hms'⟩ := hput
    rw [overlayAll, hms']
    exact ih ms'

/-- No field makes something of a table, and other values settle as they are. -/
theorem converted?_map_settled {α : Type} (absent : α) {convert : Loose → Option α}
    (htable : ∀ ms, convert (table ms) = none) (v : Option Loose) :
    converted? absent convert (v.map settled) = converted? absent convert v := by
  cases v with
  | none => rfl
  | some v =>
    show convert v.settled = convert v
    cases v with
    | table ms =>
      obtain ⟨ms', hms'⟩ := exists_overlayAll ms []
      rw [settled, hms', htable, htable]
    | _ => rfl

theorem exists_converted?_iff {α : Type} {absent : α} {convert : Loose → Option α}
    {v : Option Loose} : (∃ x, converted? absent convert v = some x) ↔
      ∀ w, v = some w → (convert w).isSome = true := by
  cases v with
  | none => exact ⟨fun _ _ h => (nomatch h), fun _ => ⟨absent, rfl⟩⟩
  | some v =>
    constructor
    · rintro ⟨x, hx⟩ w hw
      rw [← Option.some.inj hw]
      exact Option.isSome_iff_exists.mpr ⟨x, hx⟩
    · intro h
      exact Option.isSome_iff_exists.mp (h v rfl)

theorem field?_table {α : Type} (ms : List (String × Loose)) (position : Nat) (name : String)
    (absent : α) (convert : Loose → Option α) : field? (table ms) position name absent convert =
      converted? absent convert ((table ms).member? name) := by
  rw [field?, member?, members]
  cases ms.lookup name <;> rfl

/-- A section that is missing is like one without fields. -/
theorem field?_section {α : Type} {root : Loose} (hroot : HasSections root) {sec : String}
    (hsec : sec ∈ sectionNames) (position : Nat) (convert : Loose → Option α) {absent : α}
    (hnil : convert (table []) = some absent) : ∃ ms,
      field? root position sec absent convert = convert (table ms) ∧
        ∀ key, (table ms).member? key = root.fieldAt? sec key := by
  obtain ⟨members, rfl⟩ := hroot.isTable
  rw [field?_table]
  cases hmember : (table members).member? sec with
  | none => exact ⟨[], hnil.symm, fun key => by rw [fieldAt?, hmember]; rfl⟩
  | some v =>
    obtain ⟨ms, rfl⟩ := hroot.sections sec hsec v hmember
    exact ⟨ms, rfl, fun key => by rw [fieldAt?, hmember]; rfl⟩

/-- The settings of the topmost table follow its fields. -/
theorem ofLoose?_eq_some_iff {root : Loose} (hroot : HasSections root) (s : Settings) :
    ofLoose? root = some s ↔ Follows (fun sec key => root.fieldAt? sec key) s := by
  obtain ⟨server, hserver, hserver'⟩ :=
    field?_section hroot (show "server" ∈ sectionNames by decide) 0 ServerSettings.ofLoose? rfl
  obtain ⟨tracking, htracking, htracking'⟩ :=
    field?_section hroot (show "tracking" ∈ sectionNames by decide) 1 TrackingSettings.ofLoose? rfl
  obtain ⟨display, hdisplay, hdisplay'⟩ :=
    field?_section hroot (show "display" ∈ sectionNames by decide) 2 Labels.ofLoose? rfl
  obtain ⟨logging, hlogging, hlogging'⟩ :=
    field?_section hroot (show "logging" ∈ sectionNames by decide) 3 LoggingSettings.ofLoose? rfl
  rw [ofLoose?, hserver, htracking, hdisplay, hlogging]
  simp only [ServerSettings.ofLoose?, TrackingSettings.ofLoose?, Labels.ofLoose?,
    LoggingSettings.ofLoose?, field?_table, hserver', htracking', hdisplay', hlogging',
    Option.bind_eq_bind, Option.bind_eq_some_iff, Option.some.injEq]
  constructor
  · rintro ⟨_, ⟨host, hhost, port, hport, rfl⟩, _, ⟨timeout, htimeout, interval, hinterval, rfl⟩, _,
      ⟨distance, hdistance, power, hpower, unit, hunit, rfl⟩, _,
      ⟨level, hlevel, production, hproduction, rfl⟩, rfl⟩
    exact ⟨hhost, hport, htimeout, hinterval, hdistance, hpower, hunit, hlevel, hproduction⟩
  · rintro ⟨hhost, hport, htimeout, hinterval, hdistance, hpower, hunit, hlevel, hproduction⟩
    exact ⟨_, ⟨_, hhost, _, hport, rfl⟩, _, ⟨_, htimeout, _, hinterval, rfl⟩, _,
      ⟨_, hdistance, _, hpower, _, hunit, rfl⟩, _, ⟨_, hlevel, _, hproduction, rfl⟩, rfl⟩

end Loose

namespace Settings

open Loose

/-- Settings can follow sources exactly if every field's type takes its source. -/
theorem exists_follows_iff (source : String → String → Option Loose) :
    (∃ s, Follows source s) ↔
      ∀ f ∈ fieldTypes, ∀ v, source f.1 f.2.1 = some v → f.2.2 v = true := by
  simp only [fieldTypes, List.forall_mem_cons, List.not_mem_nil, false_implies,
    implies_true, and_true]
  constructor
  · rintro ⟨s, hhost, hport, htimeout, hinterval, hdistance, hpower, hunit, hlevel, hproduction⟩
    exact ⟨exists_converted?_iff.mp ⟨_, hhost⟩, exists_converted?_iff.mp ⟨_, hport⟩,
      exists_converted?_iff.mp ⟨_, htimeout⟩, exists_converted?_iff.mp ⟨_, hinterval⟩,
      exists_converted?_iff.mp ⟨_, hdistance⟩, exists_converted?_iff.mp ⟨_, hpower⟩,
      exists_converted?_iff.mp ⟨_, hunit⟩, exists_converted?_iff.mp ⟨_, hlevel⟩,
      exists_converted?_iff.mp ⟨_, hproduction⟩⟩
  · rintro ⟨hhost, hport, htimeout, hinterval, hdistance, hpower, hunit, hlevel, hproduction⟩
    obtain ⟨host, hhost⟩ := exists_converted?_iff.mpr hhost
    obtain ⟨port, hport⟩ := exists_converted?_iff.mpr hport
    obtain ⟨timeout, htimeout⟩ := exists_converted?_iff.mpr htimeout
    obtain ⟨interval, hinterval⟩ := exists_converted?_iff.mpr hinterval
    obtain ⟨distance, hdistance⟩ := exists_converted?_iff.mpr hdistance
    obtain ⟨power, hpower⟩ := exists_converted?_iff.mpr hpower
    obtain ⟨unit, hunit⟩ := exists_converted?_iff.mpr hunit
    obtain ⟨level, hlevel⟩ := exists_converted?_iff.mpr hlevel
    obtain ⟨production, hproduction⟩ := exists_converted?_iff.mpr hproduction
    exact ⟨⟨⟨host, port⟩, ⟨timeout, interval⟩, ⟨distance, power, unit⟩, ⟨level, production⟩⟩,
      hhost, hport, htimeout, hinterval, hdistance, hpower, hunit, hlevel, hproduction⟩

/-- The sources leave no choice. -/
theorem Follows.unique {source : String → String → Option Loose} {s s' : Settings}
    (h : Follows source s) (h' : Follows source s') : s = s' := by
  obtain ⟨⟨host, port⟩, ⟨timeout, interval⟩, ⟨distance, power, unit⟩, ⟨level, production⟩⟩ := s
  obtain ⟨⟨host', port'⟩, ⟨timeout', interval'⟩, ⟨distance', power', unit'⟩,
    ⟨level', production'⟩⟩ := s'
  have hhost := h.host.symm.trans h'.host
  have hport := h.port.symm.trans h'.port
  have htimeout := h.staleTimeout.symm.trans h'.staleTimeout
  have hinterval := h.expiryInterval.symm.trans h'.expiryInterval
  have hdistance := h.distanceUnknown.symm.trans h'.distanceUnknown
  have hpower := h.txPowerUnknown.symm.trans h'.txPowerUnknown
  have hunit := h.distanceUnit.symm.trans h'.distanceUnit
  have hlevel := h.level.symm.trans h'.level
  have hproduction := h.production.symm.trans h'.production
  simp only [Option.some.injEq] at *
  subst_vars
  rfl

/-- Only what the nine fields ask for counts. -/
theorem follows_congr {source source' : String → String → Option Loose}
    (h : ∀ f ∈ fieldTypes, source' f.1 f.2.1 = source f.1 f.2.1) (s : Settings) :
    Follows source' s ↔ Follows source s := by
  simp only [fieldTypes, List.forall_mem_cons, List.not_mem_nil, false_implies,
    implies_true, and_true] at h
  simp only [follows_iff, h]

/-- It does not matter to a field whether the names in its source are in lower case. -/
theorem follows_map_settled (source : String → String → Option Loose) (s : Settings) :
    Follows (fun sec key => (source sec key).map settled) s ↔ Follows source s := by
  have haddress : ∀ ms, toAddress? (table ms) = none := fun _ => rfl
  have hnumber : ∀ ms, toUInt16? (table ms) = none := fun _ => rfl
  have hlong : ∀ ms, toUInt64? (table ms) = none := fun _ => rfl
  have htext : ∀ ms, toText? (table ms) = none := fun _ => rfl
  have hswitch : ∀ ms, toBool? (table ms) = none := fun _ => rfl
  simp only [follows_iff, converted?_map_settled _ haddress, converted?_map_settled _ hnumber,
    converted?_map_settled _ hlong, converted?_map_settled _ htext,
    converted?_map_settled _ hswitch]

/-- What the layers leave at a field is its source, put in order. -/
theorem exists_ofSources {file : Toml.Members} {env : Environment} (hfile : IsPlainFile file)
    (henv : IsPlainEnvironment env) : ∃ members root, ofTable? file = some (table members) ∧
      HasSections root ∧ (∀ f ∈ fieldTypes,
        root.fieldAt? f.1 f.2.1 = (source? file env f.1 f.2.1).map settled) ∧
      ofSources members env = match ofLoose? root with
        | none => .error .unreadable
        | some s => s.validate.map fun _ => s := by
  obtain ⟨members, between, htable, hlayer, hbetween, hbefore⟩ := exists_layer_file hfile
  obtain ⟨root, hlayer', hroot, hafter⟩ := exists_layer_settings henv hbetween
  refine ⟨members, root, htable, hroot, ?fields, ?outcome⟩
  case fields =>
    have hnames : ∀ f ∈ fieldTypes, f.1 ∈ sectionNames ∧ IsPlainName f.2.1 := by
      simp only [fieldTypes, List.forall_mem_cons, List.not_mem_nil, false_implies, implies_true,
        and_true]
      decide
    intro f hf
    obtain ⟨hsec, hkey⟩ := hnames f hf
    rw [hafter f.1 hsec f.2.1 hkey, hbefore f.1 hsec f.2.1, source?]
    cases environmentValue? env f.1 f.2.1 <;> rfl
  case outcome =>
    rw [ofSources, hlayer]
    simp only [bind, Except.bind, hlayer', Except.mapError]
    cases ofLoose? root with
    | none => rfl
    | some s => cases s.validate <;> rfl

/-- A load of a plain file in a plain environment. -/
structure IsPlainLoad (t : FileTree) (path : String) (env : Environment) (file : Toml.Members) :
    Prop where
  isRead : ∃ text, t.find? path = some (.file text) ∧ Toml.read? text.toList = some file
  isPlainFile : IsPlainFile file
  isPlainEnvironment : IsPlainEnvironment env

/-- Settings that follow the sources are loaded if they are valid; without any, loading fails. -/
theorem loadFrom_cases {t : FileTree} {path : String} {env : Environment} {file : Toml.Members}
    (h : IsPlainLoad t path env file) :
    (∃ s, Follows (source? file env) s ∧ loadFrom t path env = s.validate.map fun _ => s) ∨
      (¬∃ s, Follows (source? file env) s) ∧ loadFrom t path env = .error .unreadable := by
  obtain ⟨text, hfind, hread⟩ := h.isRead
  obtain ⟨members, root, htable, hroot, hfields, houtcome⟩ :=
    exists_ofSources h.isPlainFile h.isPlainEnvironment
  have hfollows : ∀ s, ofLoose? root = some s ↔ Follows (source? file env) s := by
    intro s
    rw [ofLoose?_eq_some_iff hroot, ← follows_map_settled (source? file env)]
    exact follows_congr hfields s
  have hload : loadFrom t path env = ofSources members env := by
    rw [loadFrom, hfind]
    simp only [ofText, hread, Option.bind_some, htable]
  rw [hload, houtcome]
  cases hroot' : ofLoose? root with
  | none =>
    right
    refine ⟨?_, rfl⟩
    rintro ⟨s, hs⟩
    rw [(hfollows s).mpr hs] at hroot'
    cases hroot'
  | some s => exact .inl ⟨s, (hfollows s).mp hroot', rfl⟩

theorem map_validate_ne_unreadable (s : Settings) :
    (s.validate.map fun _ => s) ≠ .error .unreadable := by
  rw [validate]
  split <;> nofun

/-- Loading fails to read a file exactly if some field's own source is not of its type. If none
is, the settings that take each field from its own source are loaded if they are valid, and else
the error that says what is wrong with them is reported. Nothing else in the file or in the
environment counts. -/
theorem loadFrom_field_by_field {t : FileTree} {path : String} {env : Environment}
    {file : Toml.Members} (h : IsPlainLoad t path env file) :
    (loadFrom t path env = .error .unreadable ↔
        ∃ f ∈ fieldTypes, ∃ v, source? file env f.1 f.2.1 = some v ∧ f.2.2 v = false) ∧
      ((∀ f ∈ fieldTypes, ∀ v, source? file env f.1 f.2.1 = some v → f.2.2 v = true) →
        ∃ s, Follows (source? file env) s ∧
          (s.validate = .ok () → loadFrom t path env = .ok s) ∧
          ∀ e, s.validate = .error e → loadFrom t path env = .error e) ∧
      ∀ t' path' env' file', IsPlainLoad t' path' env' file' →
        (∀ f ∈ fieldTypes, source? file' env' f.1 f.2.1 = source? file env f.1 f.2.1) →
          loadFrom t' path' env' = loadFrom t path env := by
  have hbad : (∃ f ∈ fieldTypes, ∃ v, source? file env f.1 f.2.1 = some v ∧ f.2.2 v = false) ↔
      ¬∃ s, Follows (source? file env) s := by
    rw [exists_follows_iff]
    simp only [not_forall, Bool.not_eq_true, exists_prop]
  rw [hbad, ← exists_follows_iff]
  refine ⟨?unreadable, ?loaded, ?same⟩
  case unreadable =>
    rcases loadFrom_cases h with ⟨s, hs, hload⟩ | ⟨hnone, hload⟩
    · rw [hload]
      exact ⟨fun heq => absurd heq (map_validate_ne_unreadable s),
        fun hnone => absurd ⟨s, hs⟩ hnone⟩
    · exact ⟨fun _ => hnone, fun _ => hload⟩
  case loaded =>
    intro hsome
    rcases loadFrom_cases h with ⟨s, hs, hload⟩ | ⟨hnone, -⟩
    · refine ⟨s, hs, fun hvalid => ?_, fun e hinvalid => ?_⟩
      · rw [hload, hvalid]
        rfl
      · rw [hload, hinvalid]
        rfl
    · exact absurd hsome hnone
  case same =>
    intro t' path' env' file' h' hsame
    have hfollows := follows_congr hsame
    rcases loadFrom_cases h with ⟨s, hs, hload⟩ | ⟨hnone, hload⟩
    · rcases loadFrom_cases h' with ⟨s', hs', hload'⟩ | ⟨hnone', -⟩
      · rw [hload, hload', ((hfollows s').mp hs').unique hs]
      · exact absurd ⟨s, (hfollows s).mpr hs⟩ hnone'
    · rcases loadFrom_cases h' with ⟨s', hs', -⟩ | ⟨-, hload'⟩
      · exact absurd ⟨s', (hfollows s').mp hs'⟩ hnone
      · rw [hload, hload']

/-- A file with an unknown section, a name in mixed case and a port that is none. -/
def mixedText : String :=
  "[Tracking]\nstale_timeout_secs = 30\n[server]\nport = \"many\"\n[theme]\ncolor = 1\n"

/-- The tables of `mixedText`. -/
def mixedFile : Toml.Members :=
  [("Tracking", .table .header [("stale_timeout_secs", .integer 30)]),
    ("server", .table .header [("port", .string "many")]),
    ("theme", .table .header [("color", .integer 1)])]

/-- An environment with a port and the name of a file. -/
def portEnvironment : Environment :=
  [("LOCATOR_CONFIG", "app.toml"), ("locator__Server__Port", "8080")]

theorem isPlainLoad_mixed :
    IsPlainLoad ⟨[(["app.toml"], .file mixedText)]⟩ "app.toml" portEnvironment mixedFile := by
  refine ⟨⟨mixedText, rfl, by with_unfolding_all rfl⟩,
    ⟨by decide, ?distinct, ?sections⟩, ⟨?names, by decide, ?form⟩⟩
  case distinct =>
    unfold HasDistinctNames
    decide
  case sections =>
    intro sec hsec v hv
    simp only [sectionNames, List.mem_cons, List.not_mem_nil, or_false] at hsec
    rcases hsec with rfl | rfl | rfl | rfl
    · exact ⟨_, _, (Option.some.inj hv).symm, List.nodup_singleton _⟩
    · exact ⟨_, _, (Option.some.inj hv).symm, List.nodup_singleton _⟩
    · cases hv
    · cases hv
  case names =>
    unfold HasDistinctNames
    decide
  case form =>
    intro entry hentry sec words hwords hsec
    simp only [portEnvironment, List.mem_cons, List.not_mem_nil, or_false] at hentry
    rcases hentry with rfl | rfl
    · cases hwords
    · exact ⟨_, (List.cons.inj (Option.some.inj hwords)).2.symm⟩

/-- The variable of the port is in the way of the port in the file, the timeout in the file is in
the way of the default, and nothing else has an effect. -/
theorem loadFrom_mixed :
    loadFrom ⟨[(["app.toml"], .file mixedText)]⟩ "app.toml" portEnvironment =
      .ok { server := { port := 8080 }, tracking := { staleTimeoutSecs := 30 } } := by
  have hfollows : Follows (source? mixedFile portEnvironment)
      { server := { port := 8080 }, tracking := { staleTimeoutSecs := 30 } } := by
    have htimeout : source? mixedFile portEnvironment "tracking" "stale_timeout_secs" =
        some (.integer 30) := by
      show ofToml? (.integer 30) = _
      rw [ofToml?]
    constructor
    case staleTimeout =>
      rw [htimeout]
      rfl
    all_goals decide
  have htypes := (exists_follows_iff _).mp ⟨_, hfollows⟩
  obtain ⟨s, hs, hvalid, -⟩ := (loadFrom_field_by_field isPlainLoad_mixed).2.1 htypes
  rw [hs.unique hfollows] at hvalid
  exact hvalid (by decide)

end Settings

end NearbyBeacons
