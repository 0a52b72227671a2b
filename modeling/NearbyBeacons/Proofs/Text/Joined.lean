import Mathlib.Data.List.Basic
/-!
# Joined texts

Parts that are joined with a separator between them, and the lines of a text, which a line break
separates. Lines without a line break of their own are found again (`lines_flatMap_append`).
-/

namespace NearbyBeacons.Text

/-! ### Parts and separators -/

/-- Joined parts begin with the first of them. -/
theorem exists_intercalate_cons {α : Type} (sep : α) (ys : List α) (xs : List (List α)) :
    ∃ zs, [sep].intercalate (ys :: xs) = ys ++ zs := by
  cases xs with
  | nil => exact ⟨[], by rw [List.intercalate_singleton, List.append_nil]⟩
  | cons _ _ => exact ⟨_, by rw [List.intercalate_cons_cons, List.append_assoc]⟩

/-- What is in a part is in the joined parts. -/
theorem mem_intercalate {α : Type} {sep x : α} {xs : List (List α)} {ys : List α} (hys : ys ∈ xs)
    (hx : x ∈ ys) : x ∈ [sep].intercalate xs := by
  induction xs with
  | nil => cases hys
  | cons zs xs ih =>
    cases xs with
    | nil =>
      rw [List.intercalate_singleton]
      rwa [← List.mem_singleton.mp hys]
    | cons zs' xs =>
      rw [List.intercalate_cons_cons, List.append_assoc, List.mem_append]
      rcases List.mem_cons.mp hys with rfl | hys
      · exact .inl hx
      · exact .inr (List.mem_append_right _ (ih hys))

/-- In joined parts each but the last has a separator behind it. -/
theorem intercalate_concat {α : Type} (sep : α) (xs : List (List α)) (ys : List α) :
    [sep].intercalate (xs ++ [ys]) = xs.flatMap (· ++ [sep]) ++ ys := by
  induction xs with
  | nil => rw [List.nil_append, List.intercalate_singleton, List.flatMap_nil, List.nil_append]
  | cons zs xs ih =>
    rw [List.cons_append, List.intercalate_cons_of_ne_nil (by simp), ih, List.flatMap_cons,
      List.append_assoc, List.append_assoc, List.append_assoc]

theorem flatMap_concat {α : Type} (sep : α) {xs : List (List α)} (h : xs ≠ []) :
    xs.flatMap (· ++ [sep]) = [sep].intercalate xs ++ [sep] := by
  obtain ⟨ys, y, rfl⟩ := List.eq_nil_or_concat xs |>.resolve_left h
  rw [List.concat_eq_append, intercalate_concat, List.flatMap_append, List.flatMap_singleton,
    List.append_assoc]

/-! ### Lines -/

/-- The lines of a text, with a line break between two of them. The empty text has none. -/
def lines (cs : List Char) : List (List Char) := if cs.isEmpty then [] else cs.splitOn '\n'

/-- Lines that a line break ends, and a last one that nothing ends, are found again. -/
theorem lines_flatMap_append {front : List (List Char)} {last : List Char}
    (hfront : ∀ line ∈ front, '\n' ∉ line) (hlast : '\n' ∉ last) (hne : last ≠ []) :
    lines (front.flatMap (· ++ ['\n']) ++ last) = front ++ [last] := by
  have htext : (front.flatMap (· ++ ['\n']) ++ last).isEmpty = false := by
    rw [List.isEmpty_eq_false_iff]
    exact List.append_ne_nil_of_right_ne_nil _ hne
  have hparts : ∀ line ∈ front ++ [last], '\n' ∉ line := by
    intro line hline
    rcases List.mem_append.mp hline with hline | hline
    · exact hfront line hline
    · rwa [List.mem_singleton.mp hline]
  rw [lines, htext, ← intercalate_concat]
  exact List.splitOn_intercalate '\n' hparts (by simp)

end NearbyBeacons.Text
