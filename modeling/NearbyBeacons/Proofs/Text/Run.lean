import Mathlib.Data.List.TakeWhile
/-!
# Runs of characters

A reader that takes characters as long as they are of a kind takes a whole run of that kind,
and stops where a character of another kind follows.
-/

namespace NearbyBeacons.Text

variable {p : Char → Bool} {run rest : List Char}

/-- A character of a kind is no character of another kind. -/
theorem ne_of_kind {c d : Char} (hc : p c = true) (hd : p d = false) : c ≠ d := by
  rintro rfl
  rw [hc] at hd
  cases hd

theorem takeWhile_run (hrun : ∀ c ∈ run, p c = true) (hrest : ∀ c ∈ rest.head?, p c = false) :
    (run ++ rest).takeWhile p = run := by
  rw [List.takeWhile_append_of_pos hrun]
  cases rest with
  | nil => rw [List.takeWhile_nil, List.append_nil]
  | cons c rest =>
    rw [List.takeWhile_cons_of_neg (by simp [hrest c rfl]), List.append_nil]

theorem dropWhile_run (hrun : ∀ c ∈ run, p c = true) (hrest : ∀ c ∈ rest.head?, p c = false) :
    (run ++ rest).dropWhile p = rest := by
  rw [List.dropWhile_append_of_pos hrun]
  cases rest with
  | nil => rw [List.dropWhile_nil]
  | cons c rest => rw [List.dropWhile_cons_of_neg (by simp [hrest c rfl])]

/-- A run does not begin with a character of another kind. -/
theorem run_ne_cons (hne : run ≠ []) (hrun : ∀ c ∈ run, p c = true) {d : Char}
    (hd : p d = false) (cs : List Char) : run ++ rest ≠ d :: cs := by
  obtain ⟨c, run, rfl⟩ := List.exists_cons_of_ne_nil hne
  intro heq
  exact ne_of_kind (hrun c List.mem_cons_self) hd (List.cons.inj heq).1

/-- What holds of the first character of a text. -/
theorem forall_mem_head?_cons {c : Char} {b : Bool} (h : p c = b) (cs : List Char) :
    ∀ d ∈ (c :: cs).head?, p d = b := by
  rintro d hd
  rw [← Option.some.inj hd, h]

end NearbyBeacons.Text
