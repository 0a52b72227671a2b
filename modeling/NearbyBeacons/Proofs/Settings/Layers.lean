import Mathlib.Data.List.Basic
import NearbyBeacons.Proofs.Settings.Sections
import NearbyBeacons.Settings.Layer
/-!
# One layer of settings

Laid over nothing, a source whose names differ in lower case settles member by member
(`layer_new`): its names are put in lower case, and its values settle themselves. A source of
plain names and settled values is what comes out (`layer_plain`).
-/

namespace NearbyBeacons

namespace Loose

/-! ### Tables -/

/-- A value as it comes out when it is laid over nothing: with the names in its tables in lower
case. -/
def settled : Loose → Loose
  | table incoming => overlayAll incoming (table [])
  | v => v

/-- Members as they come out when they are laid over nothing. -/
def settledMembers (ms : List (String × Loose)) : List (String × Loose) :=
  ms.map fun (name, v) => (Text.lowercaseText name, v.settled)

theorem putMember_new {ms : List (String × Loose)} {name : String}
    (h : name ∉ ms.map Prod.fst) (v : Loose) : putMember name v ms = ms ++ [(name, v)] := by
  induction ms with
  | nil => rw [putMember, List.nil_append]
  | cons entry ms ih =>
    rw [List.map_cons, List.mem_cons, not_or] at h
    rw [putMember, if_neg (fun heq => h.1 heq.symm), ih h.2, List.cons_append]

/-- A new name is added behind the others. -/
theorem overlay_new {done : List (String × Loose)} {name : String}
    (hnew : Text.lowercaseText name ∉ done.map Prod.fst) (v : Loose) :
    overlay name v (table done) = table (done ++ [(Text.lowercaseText name, v.settled)]) := by
  have hput : ∀ w, put (Text.lowercaseText name) w (table done) =
      table (done ++ [(Text.lowercaseText name, w)]) := by
    intro w
    rw [put, members, putMember_new hnew]
  cases v with
  | table incoming =>
    have hmember : (table done).member? (Text.lowercaseText name) = none :=
      lookup_eq_none_of_new hnew
    rw [overlay, hmember, Option.getD_none, hput, settled]
  | _ =>
    rw [overlay, hput]
    · rfl
    · intro incoming heq
      cases heq

theorem overlayAll_new {done ms : List (String × Loose)}
    (hnodup : (done.map Prod.fst ++ (settledMembers ms).map Prod.fst).Nodup) :
    overlayAll ms (table done) = table (done ++ settledMembers ms) := by
  induction ms generalizing done with
  | nil => rw [overlayAll, settledMembers, List.map_nil, List.append_nil]
  | cons entry ms ih =>
    obtain ⟨name, v⟩ := entry
    have hnodup' : ((done ++ [(Text.lowercaseText name, v.settled)]).map Prod.fst ++
        (settledMembers ms).map Prod.fst).Nodup := by
      simpa [settledMembers] using hnodup
    rw [overlayAll, overlay_new (new_of_nodup hnodup), ih hnodup', List.append_assoc,
      List.singleton_append]
    rfl

/-- A table of names that differ in lower case settles member by member. -/
theorem settled_table {ms : List (String × Loose)}
    (h : ((settledMembers ms).map Prod.fst).Nodup) :
    settled (table ms) = table (settledMembers ms) :=
  overlayAll_new h

theorem layer_cons (key : String) (v : Loose) (source : List (String × Loose)) (root : Loose) :
    layer root ((key, v) :: source) = (assign (PathStep.ofKey key) v root).bind (layer · source) :=
  rfl

/-- A source of single names that differ in lower case settles member by member. -/
theorem layer_new {done ms : List (String × Loose)}
    (hkeys : ∀ key ∈ ms.map Prod.fst, PathStep.ofKey key = [.name key])
    (hnodup : (done.map Prod.fst ++ (settledMembers ms).map Prod.fst).Nodup) :
    layer (table done) ms = .ok (table (done ++ settledMembers ms)) := by
  induction ms generalizing done with
  | nil => rw [settledMembers, List.map_nil, List.append_nil]; rfl
  | cons entry ms ih =>
    obtain ⟨name, v⟩ := entry
    have hnodup' : ((done ++ [(Text.lowercaseText name, v.settled)]).map Prod.fst ++
        (settledMembers ms).map Prod.fst).Nodup := by
      simpa [settledMembers] using hnodup
    have hassign : assign (PathStep.ofKey name) v (table done) =
        .ok (table (done ++ [(Text.lowercaseText name, v.settled)])) := by
      rw [hkeys name List.mem_cons_self, ← overlay_new (new_of_nodup hnodup)]
      rfl
    have hrest := ih (fun key hkey => hkeys key (List.mem_cons_of_mem _ hkey)) hnodup'
    rw [List.append_assoc, List.singleton_append] at hrest
    rw [layer_cons, hassign]
    exact hrest

/-- A value that is the same when it is laid over nothing. -/
def IsSettled (v : Loose) : Prop := v.settled = v

/-- Members with different plain names and settled values. -/
structure ArePlain (ms : List (String × Loose)) : Prop where
  names : ∀ name ∈ ms.map Prod.fst, IsPlainName name
  settled : ∀ entry ∈ ms, IsSettled entry.2
  nodup : (ms.map Prod.fst).Nodup

/-- Plain members are as they come out. -/
theorem ArePlain.settledMembers_eq {ms : List (String × Loose)} (h : ArePlain ms) :
    settledMembers ms = ms := by
  have heach : ∀ entry ∈ ms, (Text.lowercaseText entry.1, entry.2.settled) = entry := by
    intro entry hentry
    have hname := h.names entry.1 (List.mem_map_of_mem hentry)
    rw [Text.lowercaseText_eq_self hname.2, h.settled entry hentry]
  rw [settledMembers]
  exact (List.map_congr_left heach).trans (List.map_id ms)

/-- A table of plain members is settled. -/
theorem isSettled_table {ms : List (String × Loose)} (h : ArePlain ms) : IsSettled (table ms) := by
  have hnodup : ((settledMembers ms).map Prod.fst).Nodup := by
    rw [h.settledMembers_eq]
    exact h.nodup
  rw [IsSettled, settled_table hnodup, h.settledMembers_eq]

/-- A source of plain members is laid over nothing as it is. -/
theorem layer_plain {ms : List (String × Loose)} (h : ArePlain ms) :
    layer (table []) ms = .ok (table ms) := by
  have hkeys : ∀ key ∈ ms.map Prod.fst, PathStep.ofKey key = [.name key] := fun key hkey =>
    PathStep.ofKey_of_isBare (h.names key hkey).1
  rw [layer_new hkeys (by rw [h.settledMembers_eq]; exact h.nodup), h.settledMembers_eq,
    List.nil_append]

theorem ofMembers?_map {α : Type} {items : List α} {name : α → String} {value : α → Toml.Value}
    {loose : α → Loose} (h : ∀ x ∈ items, ofToml? (value x) = some (loose x)) :
    ofMembers? (items.map fun x => (name x, value x)) =
      some (items.map fun x => (name x, loose x)) := by
  induction items with
  | nil => rw [List.map_nil, List.map_nil, ofMembers?]
  | cons x items ih =>
    rw [List.map_cons, ofMembers?, h x List.mem_cons_self,
      ih fun y hy => h y (List.mem_cons_of_mem _ hy)]
    rfl

/-- A table whose names do not mark it as a date stands for itself. -/
theorem ofTable?_eq {ms : Toml.Members} (h : ∀ name ∈ ms.map Prod.fst, name ≠ Toml.momentMark) :
    ofTable? ms = (ofMembers? ms).map table := by
  have hmark : Toml.markedMoment? ms = none := by
    cases ms with
    | nil => rfl
    | cons entry ms =>
      unfold Toml.markedMoment?
      exact if_neg (h entry.1 List.mem_cons_self)
  rw [ofTable?, hmark]

theorem ofTable?_of_isPlainName {ms : Toml.Members}
    (h : ∀ name ∈ ms.map Prod.fst, IsPlainName name) :
    ofTable? ms = (ofMembers? ms).map table := by
  apply ofTable?_eq
  intro name hname heq
  exact absurd (heq ▸ h name hname) (by decide)

end Loose

/-! ### Sections as a source -/

/-- A value as a source gives it. -/
def Toml.Scalar.loose : Toml.Scalar → Loose
  | string s => .string s
  | number n => .integer n
  | switch b => .bool b

theorem Toml.Scalar.ofToml?_value (v : Toml.Scalar) : Loose.ofToml? v.value = some v.loose := by
  cases v with
  | string s => rw [value, Loose.ofToml?, loose]
  | number n => rw [value, Loose.ofToml?, loose]
  | switch b => rw [value, Loose.ofToml?, loose]

theorem Toml.Scalar.isSettled_loose (v : Toml.Scalar) : v.loose.IsSettled := by
  cases v <;> rfl

namespace Settings

/-- The table of a section as a source gives it. -/
def Section.loose (s : Section) : Loose := .table (s.fields.map fun f => (f.name, f.value.loose))

/-- The tables of sections by their names. -/
def sourceOf (sections : List Section) : List (String × Loose) :=
  sections.map fun s => (s.name, s.loose)

theorem ofTable?_members {s : Section} (hs : s.WellFormed) :
    Loose.ofTable? s.members = some s.loose := by
  have hnames : ∀ name ∈ s.members.map Prod.fst, IsPlainName name := by
    simpa [Section.members] using hs.fields_isPlainName
  rw [Loose.ofTable?_of_isPlainName hnames, Section.members,
    Loose.ofMembers?_map fun f _ => f.value.ofToml?_value]
  rfl

/-- The table of a text of sections is the source that they make. -/
theorem ofTable?_sections {sections : List Section} (hs : ∀ s ∈ sections, s.WellFormed) :
    Loose.ofTable? (sections.map fun s => (s.name, .table .header s.members)) =
      some (.table (sourceOf sections)) := by
  have hnames : ∀ name ∈ (sections.map fun s => (s.name, Toml.Value.table .header s.members)).map
      Prod.fst, IsPlainName name := by
    simpa using fun s hmem => (hs s hmem).isPlainName
  have hmembers : ∀ s ∈ sections, Loose.ofToml? (.table .header s.members) = some s.loose := by
    intro s hmem
    rw [Loose.ofToml?, ofTable?_members (hs s hmem)]
  rw [Loose.ofTable?_of_isPlainName hnames, Loose.ofMembers?_map hmembers]
  rfl

theorem Section.map_fst_loose (s : Section) :
    (s.fields.map fun f => (f.name, f.value.loose)).map Prod.fst = s.fields.map Field.name := by
  rw [List.map_map]
  rfl

theorem map_fst_sourceOf (sections : List Section) :
    (sourceOf sections).map Prod.fst = sections.map Section.name := by
  rw [sourceOf, List.map_map]
  rfl

theorem Section.isSettled_loose {s : Section} (hs : s.WellFormed) : s.loose.IsSettled := by
  apply Loose.isSettled_table
  constructor
  · rw [map_fst_loose]
    exact hs.fields_isPlainName
  · simpa using fun f _ => f.value.isSettled_loose
  · rw [map_fst_loose]
    exact hs.nodup

/-- Sections are laid over nothing as they are. -/
theorem layer_sourceOf {sections : List Section} (hs : ∀ s ∈ sections, s.WellFormed)
    (hnodup : (sections.map Section.name).Nodup) :
    (Loose.table []).layer (sourceOf sections) = .ok (.table (sourceOf sections)) := by
  have hplain : Loose.ArePlain (sourceOf sections) := by
    constructor
    · rw [map_fst_sourceOf]
      exact List.forall_mem_map.mpr fun s hmem => (hs s hmem).isPlainName
    · simpa [sourceOf] using fun s hmem => Section.isSettled_loose (hs s hmem)
    · rw [map_fst_sourceOf]
      exact hnodup
  exact Loose.layer_plain hplain

end Settings

end NearbyBeacons
