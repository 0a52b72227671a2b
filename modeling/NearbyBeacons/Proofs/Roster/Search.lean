import Mathlib.Data.List.Basic
import NearbyBeacons.Proofs.Beacon
import NearbyBeacons.Proofs.Roster.View
/-!
# Searching a roster

Asking for a query shows the tracked beacons that match it, whatever was shown before
(`applyFilter_visible`), and the notification tells whether there are any (`applyFilter_answer`).
What holds between the beacons that two queries match therefore holds between the lists shown.

A longer query shows fewer beacons (`applyFilter_narrows`), and one that differs in the case of
ASCII letters shows the same (`search_ignores_letter_case`).
-/

namespace NearbyBeacons

/-- The empty text and no query match the same beacons. -/
theorem Beacon.matchesQuery_activeQuery (b : Beacon) (query : Option String) :
    b.matchesQuery (Roster.activeQuery query) = b.matchesQuery query := by
  cases query with
  | none => rfl
  | some q =>
    by_cases hq : q = ""
    · rw [hq]
      rfl
    · rw [Roster.activeQuery, Option.filter_some, if_pos (by simpa using hq)]

namespace Roster

/-! ### What a query shows -/

theorem applyFilter_isCurrent (r : Roster) (query : Option String) :
    (r.applyFilter query).roster.IsCurrent :=
  refilter_isCurrent _

theorem applyFilter_matching (r : Roster) (query : Option String) :
    (r.applyFilter query).roster.matching = r.beacons.filter (·.matchesQuery query) := by
  rw [applyFilter, refilter_roster, matching]
  simp only [Beacon.matchesQuery_activeQuery]

/-- A query shows the tracked beacons that match it, in their order. -/
theorem applyFilter_visible (r : Roster) (query : Option String) :
    (r.applyFilter query).roster.visible = r.beacons.filter (·.matchesQuery query) := by
  rw [(r.applyFilter_isCurrent query).visible_eq, applyFilter_matching]

theorem applyFilter_count (r : Roster) (query : Option String) :
    (r.applyFilter query).roster.count = (r.applyFilter query).roster.visible.length := by
  have hcurrent := r.applyFilter_isCurrent query
  rw [hcurrent.count_eq, hcurrent.visible_eq]

theorem applyFilter_answer (r : Roster) (query : Option String) :
    (r.applyFilter query).answer = .ofCount (r.applyFilter query).roster.count := rfl

theorem applyFilter_answer_eq_invalidated_iff (r : Roster) (query : Option String) :
    (r.applyFilter query).answer = .invalidated ↔ (r.applyFilter query).roster.count = 0 := by
  rw [applyFilter_answer, Notification.ofCount]
  split <;> simp_all

/-- A query leaves nothing of the one before. -/
theorem applyFilter_applyFilter (r : Roster) (query query' : Option String) :
    (r.applyFilter query).roster.applyFilter query' = r.applyFilter query' := by
  rw [applyFilter, applyFilter, applyFilter, refilter_roster]
  rfl

/-! ### Longer queries -/

/-- **Typing more narrows the list.** Take a query without a capital sigma, and any contiguous
part of it, the empty one included. What the query shows is a subsequence of what the part shows:
it counts no more beacons, and where the part is answered that there is nothing to show, so is the
query. It is all the same whether the part has been asked for just before. -/
theorem applyFilter_narrows (r : Roster) (part query : String) (hsigma : 'Σ' ∉ query.toList)
    (hpart : part.toList <:+: query.toList) :
    let wide := r.applyFilter (some part)
    let narrow := r.applyFilter (some query)
    narrow.roster.visible.Sublist wide.roster.visible ∧
      narrow.roster.count ≤ wide.roster.count ∧
      (wide.answer = .invalidated → narrow.answer = .invalidated) ∧
      wide.roster.applyFilter (some query) = narrow := by
  intro wide narrow
  have hsettled : Text.settlesSigmas part.toList = true :=
    Text.settlesSigmas_of_not_mem fun hmem => hsigma (hpart.subset hmem)
  have hvisible : narrow.roster.visible.Sublist wide.roster.visible := by
    rw [applyFilter_visible, applyFilter_visible]
    exact List.monotone_filter_right _ fun b => Beacon.matchesQuery_of_part hsettled hpart
  have hcount : narrow.roster.count ≤ wide.roster.count := by
    rw [applyFilter_count, applyFilter_count]
    exact hvisible.length_le
  refine ⟨hvisible, hcount, fun hnone => ?_, applyFilter_applyFilter r _ _⟩
  have hempty : wide.roster.count = 0 := (applyFilter_answer_eq_invalidated_iff r _).mp hnone
  have hnone' : narrow.roster.count = 0 := by omega
  exact (applyFilter_answer_eq_invalidated_iff r _).mpr hnone'

/-- `İ` comes to an `i` and a dot above, so that `i` finds it and `im` does not. -/
theorem narrows_past_dotted_i :
    let izmir := Beacon.ofTexts "AA:BB:CC:DD:EE:01" "IZMIM"
    let istanbul := Beacon.ofTexts "AA:BB:CC:DD:EE:02" "İstanbul"
    let r := ofBeacons [izmir, istanbul] {}
    let wide := r.applyFilter (some "i")
    let narrow := r.applyFilter (some "im")
    'Σ' ∉ "im".toList ∧ "i".toList <:+: "im".toList ∧
      narrow.roster.visible.Sublist wide.roster.visible ∧
      narrow.roster.count = 1 ∧ wide.roster.count = 2 := by
  intro izmir istanbul r wide narrow
  have hsigma : 'Σ' ∉ "im".toList := by decide
  have hpart : "i".toList <:+: "im".toList := by decide
  exact ⟨hsigma, hpart, (applyFilter_narrows r "i" "im" hsigma hpart).1, by decide +kernel,
    by decide +kernel⟩

/-! ### Letter case -/

/-- **Searching ignores the case of ASCII letters.** Whether a beacon matches a query stays the
same when ASCII letters change case in the address, in the UID or in the query, whatever other
characters stand around them. Hence two queries that differ in the case of such letters show the
same beacons and are answered alike. -/
theorem search_ignores_letter_case :
    (∀ (b b' : Beacon) (query query' : Option String),
        Ascii.lower b.address = Ascii.lower b'.address →
        b.uidFrame.uid.map Ascii.lower = b'.uidFrame.uid.map Ascii.lower →
        query.map Ascii.lower = query'.map Ascii.lower →
        b.matchesQuery query = b'.matchesQuery query') ∧
      ∀ (r : Roster) (query query' : Option String),
        query.map Ascii.lower = query'.map Ascii.lower →
        let asked := r.applyFilter query
        let asked' := r.applyFilter query'
        asked.roster.visible = asked'.roster.visible ∧
          asked.roster.count = asked'.roster.count ∧ asked.answer = asked'.answer := by
  refine ⟨fun b b' query query' => Beacon.matchesQuery_congr, ?_⟩
  intro r query query' hquery asked asked'
  have hvisible : asked.roster.visible = asked'.roster.visible := by
    rw [applyFilter_visible, applyFilter_visible]
    exact List.filter_congr fun b _ => Beacon.matchesQuery_congr rfl rfl hquery
  have hcount : asked.roster.count = asked'.roster.count := by
    rw [applyFilter_count, applyFilter_count, hvisible]
  refine ⟨hvisible, hcount, ?_⟩
  rw [applyFilter_answer, applyFilter_answer, hcount]

/-- A final sigma looks past the point at a letter that may be written in either case. -/
theorem search_ignores_case_around_sigma :
    let b := Beacon.ofTexts "aa:bb:cc:dd:ee:ff" "xΣ.B"
    let b' := Beacon.ofTexts "AA:BB:CC:DD:EE:FF" "XΣ.b"
    let r := ofBeacons [b, b'] {}
    b.matchesQuery (some "Xσ.b") = b'.matchesQuery (some "xσ.B") ∧
      b'.matchesQuery (some "xσ.B") = true ∧
      (r.applyFilter (some "Σ.b")).roster.visible =
        (r.applyFilter (some "Σ.B")).roster.visible := by
  intro b b' r
  have hmatches := search_ignores_letter_case.1 b b' (some "Xσ.b") (some "xσ.B")
    (by decide +kernel) (by decide +kernel) (by decide +kernel)
  have hshown := search_ignores_letter_case.2 r (some "Σ.b") (some "Σ.B") (by decide +kernel)
  exact ⟨hmatches, by decide +kernel, hshown.1⟩

end Roster

end NearbyBeacons
