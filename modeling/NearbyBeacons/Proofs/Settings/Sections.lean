import NearbyBeacons.Proofs.Settings.Names
import NearbyBeacons.Proofs.Toml.Scalar
import NearbyBeacons.Settings.Load
/-!
# Written sections read back

A text of sections, with a header each and a line for every field, is read as the table of the
sections (`read?_documentText`). A line adds its field to the section that was opened last
(`linesFrom?_fields`), and a header adds an empty section to those before it
(`linesFrom?_section`).
-/

namespace NearbyBeacons

namespace Toml

/-! ### Growing tables -/

theorem Members.lookup_concat {members : Members} {name : String}
    (h : name ∉ members.map Prod.fst) (v : Value) :
    (members ++ [(name, v)]).lookup name = some v := by
  rw [List.lookup_append, lookup_eq_none_of_new h, Option.none_or, List.lookup_cons_self]

theorem Members.replace_concat {members : Members} {name : String}
    (h : name ∉ members.map Prod.fst) (v w : Value) :
    replace name w (members ++ [(name, v)]) = members ++ [(name, w)] := by
  induction members with
  | nil => rw [List.nil_append, List.nil_append, replace, if_pos rfl]
  | cons entry members ih =>
    rw [List.map_cons, List.mem_cons, not_or] at h
    rw [List.cons_append, replace, if_neg (fun heq => h.1 heq.symm), ih h.2, List.cons_append]

/-- A header with a new name opens an empty table behind the others. -/
theorem Draft.open?_new {d : Draft} {name : String} (h : name ∉ d.members.map Prod.fst) :
    d.open? Members.openTable? [] name =
      some ⟨d.members ++ [(name, .table .header [])], [name]⟩ := by
  rw [Draft.open?, Members.alter?, Members.openTable?, lookup_eq_none_of_new h]
  rfl

/-- A new key adds its value to the table that was opened last. -/
theorem Draft.assign?_last {members fields : Members} {sec name : String}
    (hsec : sec ∉ members.map Prod.fst) (hname : name ∉ fields.map Prod.fst) (v : Value) :
    Draft.assign? ⟨members ++ [(sec, .table .header fields)], [sec]⟩ [] name v =
      some ⟨members ++ [(sec, .table .header (fields ++ [(name, v)]))], [sec]⟩ := by
  have hadd : Members.addKey? [] name v .header fields = some (fields ++ [(name, v)]) := by
    rw [Members.addKey?, Members.alter?, if_neg (by simp), Members.insertNew?,
      lookup_eq_none_of_new hname]
    rfl
  rw [Draft.assign?, Members.alter?, Members.lookup_concat hsec]
  simp only [Members.alter?, hadd]
  rw [if_neg (by simp), Option.map_some, Option.map_some, Members.replace_concat hsec]

/-! ### Lines -/

theorem line?_header (d : Draft) {name : String} (hname : IsBare name) (rest : List Char) :
    line? d (Settings.headerText name ++ rest) =
      (d.open? Members.openTable? [] name).map fun d => (d, rest) := by
  have hkey : key? (name.toList ++ ']' :: '\n' :: rest) = some (([], name), ']' :: '\n' :: rest) :=
    key?_bare hname (Text.forall_mem_head?_cons (by decide) _) (by simp [skipSpaces, isSpace])
  have hheader : header? [']'] (name.toList ++ ']' :: '\n' :: rest) = some (([], name), rest) := by
    rw [header?, hkey]
    rfl
  have htext : Settings.headerText name ++ rest = '[' :: (name.toList ++ ']' :: '\n' :: rest) := by
    simp [Settings.headerText]
  obtain ⟨c, cs, hcons, hne⟩ := hname.exists_cons
  rw [htext, line?, hheader]
  · rw [Option.map_eq_bind]
    rfl
  · rw [hcons]
    exact fun _ heq => hne '[' (by decide) (List.cons.inj heq).1

theorem line?_field (d : Draft) {name : String} (hname : IsBare name) {text : List Char}
    {v : Value} (htext : Writes text v) (rest : List Char) :
    line? d (Settings.lineText name text ++ rest) =
      (d.assign? [] name v).map fun d => (d, rest) := by
  have hkey : key? (name.toList ++ ' ' :: '=' :: ' ' :: (text ++ '\n' :: rest)) =
      some (([], name), '=' :: ' ' :: (text ++ '\n' :: rest)) :=
    key?_bare hname (Text.forall_mem_head?_cons (by decide) _) (by simp [skipSpaces, isSpace])
  have hassign : assignment? (value? (depthLimit - 1))
      (name.toList ++ ' ' :: '=' :: ' ' :: (text ++ '\n' :: rest)) =
        some (([], name), v, '\n' :: rest) := by
    have hskip : skipSpaces (' ' :: (text ++ '\n' :: rest)) = skipSpaces (text ++ '\n' :: rest) :=
      List.dropWhile_cons_of_pos (by decide)
    rw [assignment?, hkey]
    simp only [hskip, htext rest, Option.map_some]
  have hline : Settings.lineText name text ++ rest =
      name.toList ++ ' ' :: '=' :: ' ' :: (text ++ '\n' :: rest) := by
    simp [Settings.lineText]
  have hfinish : finishLine? ('\n' :: rest) = some rest := by
    simp [finishLine?, skipSpaces, isSpace, skipComment, lineEnd?]
  have hne : ∀ {d : Char} {cs : List Char}, isBareKeyChar d = false →
      name.toList ++ ' ' :: '=' :: ' ' :: (text ++ '\n' :: rest) ≠ d :: cs := by
    obtain ⟨c, cs, hcons, hne⟩ := hname.exists_cons
    intro d cs' hd heq
    rw [hcons] at heq
    exact hne d hd (List.cons.inj heq).1
  rw [hline, line?, hassign]
  · simp only [Option.bind_eq_bind, Option.bind_some, hfinish]
    rw [Option.map_eq_bind]
    rfl
  · exact fun _ => hne (by decide)
  · exact fun _ => hne (by decide)
  · exact fun _ => hne (by decide)

theorem skipBlankLines_cons {c : Char} (hnewline : c ≠ '\n') (hreturn : c ≠ '\r')
    (hspace : isSpace c = false) (cs : List Char) : skipBlankLines (c :: cs) = c :: cs := by
  rw [skipBlankLines, hspace]
  · exact if_neg Bool.false_ne_true
  · exact hnewline
  · exact fun _ heq => absurd heq hreturn

/-- The line of a field is not blank. -/
theorem skipBlankLines_field {name : String} (hname : IsBare name) (text rest : List Char) :
    skipBlankLines (Settings.lineText name text ++ rest) = Settings.lineText name text ++ rest := by
  obtain ⟨c, cs, hcons, hne⟩ := hname.exists_cons
  rw [Settings.lineText, hcons, List.cons_append, List.cons_append, List.cons_append,
    List.cons_append]
  apply skipBlankLines_cons (hne _ (by decide)) (hne _ (by decide))
  simp [isSpace, hne ' ' (by decide), hne '\t' (by decide)]

/-- A line behind blank ones takes the reading one step further. -/
theorem linesFrom?_of_line {d d' : Draft} {cs line rest : List Char} (hne : line ≠ [])
    (hstart : skipBlankLines cs = line ++ rest) (hle : (line ++ rest).length ≤ cs.length)
    (hline : line? d (line ++ rest) = some (d', rest)) : linesFrom? d cs = linesFrom? d' rest := by
  have hlt : rest.length < cs.length := by
    have hpos := List.length_pos_of_ne_nil hne
    rw [List.length_append] at hle
    omega
  rw [linesFrom?, hstart]
  split
  · next hnil => exact absurd (List.append_eq_nil_iff.mp hnil).1 hne
  · simp only [hline, if_pos hlt]

end Toml

namespace Settings

open Toml

/-! ### Sections -/

/-- A field of a section. -/
structure Field where
  name : String
  value : Scalar

/-- A section with its fields in order. -/
structure Section where
  name : String
  fields : List Field

namespace Section

/-- The names and values of the fields. -/
def members (s : Section) : Members := s.fields.map fun f => (f.name, f.value.value)

/-- The header and the lines of a section. -/
def text (s : Section) : List Char :=
  headerText s.name ++ s.fields.flatMap fun f => lineText f.name f.value.text

/-- The names are plain and those of the fields different, and every value can be written. -/
structure WellFormed (s : Section) : Prop where
  isPlainName : IsPlainName s.name
  fields_isPlainName : ∀ name ∈ s.fields.map Field.name, IsPlainName name
  fits : ∀ f ∈ s.fields, f.value.Fits
  nodup : (s.fields.map Field.name).Nodup

end Section

theorem skipBlankLines_section (s : Section) (rest : List Char) :
    skipBlankLines (s.text ++ rest) = s.text ++ rest :=
  skipBlankLines_cons (by decide) (by decide) (by decide) _

/-- The sections with a blank line between them. -/
def documentText (sections : List Section) : List Char :=
  ['\n'].intercalate (sections.map Section.text)

/-- The lines of a section add its fields to it. -/
theorem linesFrom?_fields {members : Members} {sec : String} (hsec : sec ∉ members.map Prod.fst)
    {fields : List Field} (hnames : ∀ name ∈ fields.map Field.name, IsPlainName name)
    (hfits : ∀ f ∈ fields, f.value.Fits) {done : Members}
    (hnodup : (done.map Prod.fst ++ fields.map Field.name).Nodup) (rest : List Char) :
    linesFrom? ⟨members ++ [(sec, .table .header done)], [sec]⟩
        ((fields.flatMap fun f => lineText f.name f.value.text) ++ rest) =
      linesFrom? ⟨members ++ [(sec, .table .header
        (done ++ fields.map fun f => (f.name, f.value.value)))], [sec]⟩ rest := by
  -- on the fields that are left; `done` holds those that the open section has already
  induction fields generalizing done with
  | nil => rw [List.flatMap_nil, List.nil_append, List.map_nil, List.append_nil]
  | cons f fields ih =>
    rw [List.map_cons] at hnodup hnames
    have hf : IsBare f.name := (hnames f.name List.mem_cons_self).1
    have hname : f.name ∉ done.map Prod.fst := new_of_nodup hnodup
    have hline := line?_field ⟨members ++ [(sec, .table .header done)], [sec]⟩ hf
      (Scalar.writes_text (hfits f List.mem_cons_self))
      ((fields.flatMap fun f => lineText f.name f.value.text) ++ rest)
    rw [Draft.assign?_last hsec hname, Option.map_some] at hline
    have hnodup' :
        (((done ++ [(f.name, f.value.value)]).map Prod.fst) ++ fields.map Field.name).Nodup := by
      simpa using hnodup
    have hrest := ih (fun name hname => hnames name (List.mem_cons_of_mem _ hname))
      (fun g hg => hfits g (List.mem_cons_of_mem _ hg)) hnodup'
    have hne : lineText f.name f.value.text ≠ [] := by simp [lineText]
    rw [List.flatMap_cons, List.append_assoc,
      linesFrom?_of_line hne (skipBlankLines_field hf f.value.text _) (Nat.le_refl _) hline, hrest,
      List.map_cons, List.append_assoc, List.singleton_append]

/-- A section is added behind those that were read before it. -/
theorem linesFrom?_section {d : Draft} {s : Section} (hs : s.WellFormed)
    (hname : s.name ∉ d.members.map Prod.fst) {cs rest : List Char}
    (hstart : skipBlankLines cs = s.text ++ rest) (hle : (s.text ++ rest).length ≤ cs.length) :
    linesFrom? d cs =
      linesFrom? ⟨d.members ++ [(s.name, .table .header s.members)], [s.name]⟩ rest := by
  have hline := line?_header d hs.isPlainName.1
    ((s.fields.flatMap fun f => lineText f.name f.value.text) ++ rest)
  rw [Draft.open?_new hname, Option.map_some] at hline
  rw [Section.text, List.append_assoc] at hstart hle
  have hne : headerText s.name ≠ [] := by simp [headerText]
  have hnodup : (([] : Members).map Prod.fst ++ s.fields.map Field.name).Nodup := hs.nodup
  rw [linesFrom?_of_line hne hstart hle hline,
    linesFrom?_fields hname hs.fields_isPlainName hs.fits hnodup]
  rfl

theorem documentText_cons (s : Section) (sections : List Section) :
    documentText (s :: sections) = s.text ++ sections.flatMap fun s => '\n' :: s.text := by
  induction sections generalizing s with
  | nil => simp [documentText]
  | cons s' sections ih =>
    rw [documentText, List.map_cons, List.map_cons, List.intercalate_cons_cons, ← List.map_cons,
      ← documentText, ih]
    simp

/-- Sections behind blank lines are added one after the other. -/
theorem linesFrom?_sections {d : Draft} {sections : List Section}
    (hs : ∀ s ∈ sections, s.WellFormed)
    (hnodup : (d.members.map Prod.fst ++ sections.map Section.name).Nodup) :
    linesFrom? d (sections.flatMap fun s => '\n' :: s.text) =
      some (d.members ++ sections.map fun s => (s.name, .table .header s.members)) := by
  induction sections generalizing d with
  | nil =>
    rw [List.flatMap_nil, List.map_nil, List.append_nil, linesFrom?]
    rfl
  | cons s sections ih =>
    rw [List.map_cons] at hnodup
    have hname : s.name ∉ d.members.map Prod.fst := new_of_nodup hnodup
    have hstart : skipBlankLines ('\n' :: (s.text ++ sections.flatMap fun s => '\n' :: s.text)) =
        s.text ++ sections.flatMap fun s => '\n' :: s.text := by
      rw [skipBlankLines, skipBlankLines_section]
    have hrest := ih (d := ⟨d.members ++ [(s.name, .table .header s.members)], [s.name]⟩)
      (fun t ht => hs t (List.mem_cons_of_mem _ ht)) (by simpa using hnodup)
    rw [List.flatMap_cons, List.cons_append,
      linesFrom?_section (hs s List.mem_cons_self) hname hstart (by simp), hrest]
    simp

/-- A text of well-formed sections with different names is read as the table of the sections. -/
theorem read?_documentText {sections : List Section} (hs : ∀ s ∈ sections, s.WellFormed)
    (hnodup : (sections.map Section.name).Nodup) :
    read? (documentText sections) =
      some (sections.map fun s => (s.name, .table .header s.members)) := by
  cases sections with
  | nil =>
    rw [documentText, List.map_nil, List.intercalate_nil, read?, linesFrom?]
    · rfl
    · exact fun _ heq => absurd heq (by simp)
  | cons s sections =>
    have hfirst : linesFrom? ⟨[], []⟩ (documentText (s :: sections)) =
        linesFrom? ⟨[(s.name, .table .header s.members)], [s.name]⟩
          (sections.flatMap fun s => '\n' :: s.text) := by
      rw [documentText_cons]
      exact linesFrom?_section (hs s List.mem_cons_self) List.not_mem_nil
        (skipBlankLines_section s _) (Nat.le_refl _)
    have hmark : read? (documentText (s :: sections)) =
        linesFrom? ⟨[], []⟩ (documentText (s :: sections)) := by
      rw [documentText_cons]
      rfl
    rw [hmark, hfirst, linesFrom?_sections (fun t ht => hs t (List.mem_cons_of_mem _ ht))
      (by simpa using hnodup)]
    rfl

end Settings

end NearbyBeacons
