import Mathlib.Data.List.Basic
import NearbyBeacons.Settings.FileTree
/-!
# Files that were written

A path leads to the file that was written there (`find?_of_write?`): the file takes no place of
a folder, so the path passes through the same folders as before. Whether a file can be written
does not depend on its text (`exists_write?`).
-/

namespace NearbyBeacons.FileTree

theorem lookup_filter_of_ne {entries : List (List String × FileEntry)} {names target : List String}
    (h : names ≠ target) :
    (entries.filter fun entry => entry.1 != target).lookup names = entries.lookup names := by
  induction entries with
  | nil => rfl
  | cons entry entries ih =>
    obtain ⟨here, found⟩ := entry
    by_cases htarget : here = target
    · have hhere : (names == here) = false := by simpa [htarget] using h
      rw [List.filter_cons_of_neg (by simp [htarget]), ih, List.lookup_cons, hhere]
    · rw [List.filter_cons_of_pos (by simpa using htarget), List.lookup_cons, List.lookup_cons, ih]

theorem entry?_put_of_ne (t : FileTree) {names target : List String} (h : names ≠ target)
    (text : String) : entry? (t.put target text) names = t.entry? names := by
  have hne : (names == target) = false := by simpa using h
  unfold entry?
  rw [put, List.lookup_cons, hne, lookup_filter_of_ne h]

theorem entry?_put (t : FileTree) {target : List String} (h : target ≠ []) (text : String) :
    entry? (t.put target text) target = some (.file text) := by
  unfold entry?
  rw [if_neg h, put, List.lookup_cons_self]

/-- A file that takes no place of a folder is in no way. -/
theorem walk?_put {t : FileTree} {target : List String} (h : t.entry? target ≠ some .folder)
    (text : String) {parts names found : List String} (hwalk : t.walk? names parts = some found) :
    (t.put target text).walk? names parts = some found := by
  induction parts generalizing names with
  | nil => exact hwalk
  | cons part parts ih =>
    rw [walk?] at hwalk ⊢
    split at hwalk
    · next hfolder =>
      -- the walk goes on from a folder, and the file is written where none is
      have hne : names ≠ target := by
        rintro rfl
        exact h hfolder
      rw [entry?_put_of_ne t hne, if_pos hfolder]
      exact ih hwalk
    · cases hwalk

/-- What has to be the case for a file to be written. -/
theorem write?_eq_some_iff {t t' : FileTree} {path text : String} :
    t.write? path text = some t' ↔ ∃ names, t.walk? [] (parts path) = some names ∧
      (isPath path = true ∧ demandsFolder path = false ∧ t.entry? names ≠ some .folder ∧
        names.getLast?.all isName = true) ∧ t.put names text = t' := by
  rw [write?]
  split
  · next hnone => simp [hnone]
  · next names hsome =>
    simp only [hsome, Option.some.injEq, exists_eq_left', Option.ite_none_right_eq_some,
      Bool.and_eq_true, Bool.not_eq_true', decide_eq_true_eq, and_assoc, Ne]

/-- The text of a file is no reason for it not to be written. -/
theorem exists_write? {t t' : FileTree} {path text : String} (h : t.write? path text = some t')
    (text' : String) : ∃ t'', t.write? path text' = some t'' := by
  obtain ⟨names, hwalk, hplace, -⟩ := write?_eq_some_iff.mp h
  exact ⟨_, write?_eq_some_iff.mpr ⟨names, hwalk, hplace, rfl⟩⟩

/-- A file can be saved at a path: the folders around it can be made, and it can be written into
them. -/
def IsWritable (t : FileTree) (path : String) : Prop :=
  ∃ around, t.makeAround? path = some around ∧ ∃ t', around.write? path "" = some t'

/-- A path leads to the file that was written there. -/
theorem find?_of_write? {t t' : FileTree} {path text : String}
    (h : t.write? path text = some t') : t'.find? path = some (.file text) := by
  obtain ⟨names, hwalk, ⟨hpath, hdemands, hentry, -⟩, rfl⟩ := write?_eq_some_iff.mp h
  have hnames : names ≠ [] := by
    rintro rfl
    exact hentry rfl
  have hfound : ((t.put names text).walk? [] (parts path)).bind
      (fun found => entry? (t.put names text) found) = some (.file text) := by
    rw [walk?_put hentry text hwalk, Option.bind_some, entry?_put t hnames]
  rw [find?, if_pos hpath, hfound]
  simp only [hdemands, if_false, Bool.false_eq_true]

end NearbyBeacons.FileTree
