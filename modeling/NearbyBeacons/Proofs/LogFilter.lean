import Mathlib.Data.List.Basic
import NearbyBeacons.LogFilter
/-!
# Where the log filter of a run comes from

A text is a filter when each of its directives can be read (`check_eq_ok_iff`). A run takes the
filter of the first source that is set, and is rejected when that is none, but for one case: a
malformed filter in the shared variable is passed over for that of the next source. So the shared
variable decides alone, whatever the other sources hold, exactly when its filter is not malformed
(`first_source_decides_iff`).
-/

namespace NearbyBeacons.LogFilter

/-! ### Filters -/

/-- The text is a filter: each directive between its commas can be read, unless nothing stands
there. -/
def IsFilter (text : String) : Prop :=
  ∀ directive ∈ text.toList.splitOn ',', directive ≠ [] → checkDirective directive = .ok ()

theorem forM_eq_ok_iff {α ε : Type} {f : α → Except ε Unit} {as : List α} :
    as.forM f = .ok () ↔ ∀ a ∈ as, f a = .ok () := by
  induction as with
  | nil => simp [pure, Except.pure]
  | cons a as ih =>
    have hcons : (a :: as).forM f = (f a >>= fun _ => as.forM f) := rfl
    rw [hcons, List.forall_mem_cons, ← ih]
    rcases f a with e | ⟨⟨⟩⟩ <;> simp [bind, Except.bind]

/-- A text is checked directive by directive. -/
theorem check_eq_ok_iff {text : String} : check text = .ok () ↔ IsFilter text := by
  rw [check, forM_eq_ok_iff, IsFilter]
  simp only [List.mem_filter, Bool.not_eq_true', List.isEmpty_eq_false_iff, and_imp]

/-! ### Sources -/

/-- A run with this environment and this configured level has a filter. -/
def IsAccepted (env : Environment) (level : String) : Prop :=
  ∃ filter, choose env level = .ok filter

/-- Whether a run is accepted depends on nothing but the shared variable, where it holds this
filter: two runs with other variables and other levels are both accepted or both not. -/
def DecidesAlone (filter : String) : Prop :=
  ∀ (env env' : Environment) (level level' : String),
    env.lookup sharedVariable = some filter → env'.lookup sharedVariable = some filter →
      (IsAccepted env level ↔ IsAccepted env' level')

/-- The filter of a source that is not passed over. -/
def taken (text : String) : Except Flaw String := (check text).map fun _ => text

theorem exists_taken_iff {text : String} : (∃ filter, taken text = .ok filter) ↔ IsFilter text := by
  rw [taken, ← check_eq_ok_iff]
  rcases check text with e | ⟨⟨⟩⟩ <;> simp [Except.map]

section

variable {env : Environment} {filter : String}

theorem fallback_of_set (h : env.lookup ownVariable = some filter) (level : String) :
    fallback env level = filter := by
  rw [fallback, h, Option.getD_some]

theorem fallback_of_unset (h : env.lookup ownVariable = none) (level : String) :
    fallback env level = level := by
  rw [fallback, h, Option.getD_none]

theorem choose_of_unset (h : env.lookup sharedVariable = none) (level : String) :
    choose env level = taken (fallback env level) := by
  simp only [choose, h, taken]

theorem choose_of_set (h : env.lookup sharedVariable = some filter)
    (hform : check filter ≠ .error .malformed) (level : String) :
    choose env level = taken filter := by
  simp only [choose, h, taken]
  rcases hcheck : check filter with (- | c) | ⟨⟨⟩⟩
  · exact absurd hcheck hform
  · rfl
  · rfl

/-- A malformed filter in the shared variable is passed over. -/
theorem choose_of_malformed (h : env.lookup sharedVariable = some filter)
    (hform : check filter = .error .malformed) (level : String) :
    choose env level = taken (fallback env level) := by
  simp only [choose, h, hform, taken]

end

/-- A run is accepted if the text that is chosen for it is a filter. -/
theorem isAccepted_of_choose_eq {env : Environment} {level text : String}
    (h : choose env level = taken text) : IsAccepted env level ↔ IsFilter text := by
  rw [IsAccepted, h, exists_taken_iff]

/-- An empty text is a filter, and a lone equals sign is none. -/
theorem isFilter_empty_and_not_isFilter_equals : IsFilter "" ∧ ¬IsFilter "=" := by
  rw [← check_eq_ok_iff, ← check_eq_ok_iff]
  decide +kernel

/-- The shared variable decides alone exactly when its filter is not malformed. -/
theorem decidesAlone_iff {filter : String} :
    DecidesAlone filter ↔ check filter ≠ .error .malformed := by
  constructor
  · intro hdecides hform
    -- two runs that differ in the configured level only
    let env : Environment := [(sharedVariable, filter)]
    have hset : env.lookup sharedVariable = some filter := by simp [env]
    have hlevel : ∀ level, IsAccepted env level ↔ IsFilter level := fun level =>
      isAccepted_of_choose_eq (choose_of_malformed hset hform level)
    obtain ⟨hfilter, hnone⟩ := isFilter_empty_and_not_isFilter_equals
    have hsame := hdecides env env "" "=" hset hset
    rw [hlevel, hlevel] at hsame
    exact hnone (hsame.mp hfilter)
  · intro hform env env' level level' hset hset'
    rw [isAccepted_of_choose_eq (choose_of_set hset hform level),
      isAccepted_of_choose_eq (choose_of_set hset' hform level')]

/-- **Which source decides.** Where the shared variable is set it decides alone, the variable of
this program and the configured level having no influence, exactly when its filter is not
malformed; a run is then accepted when its directives can be read. A malformed filter is passed
over, and the next source decides. Where the shared variable is not set, the variable of this
program decides if it is set, and the configured level otherwise. -/
theorem first_source_decides_iff (env : Environment) (level : String) :
    (∀ filter, env.lookup sharedVariable = some filter →
        (DecidesAlone filter ↔ check filter ≠ .error .malformed) ∧
          (check filter ≠ .error .malformed → (IsAccepted env level ↔ IsFilter filter)) ∧
          (check filter = .error .malformed →
            (IsAccepted env level ↔ IsFilter (fallback env level)))) ∧
      (env.lookup sharedVariable = none →
        (∀ filter, env.lookup ownVariable = some filter →
            (IsAccepted env level ↔ IsFilter filter)) ∧
          (env.lookup ownVariable = none → (IsAccepted env level ↔ IsFilter level))) := by
  constructor
  · intro filter hset
    refine ⟨decidesAlone_iff, fun hform => ?_, fun hform => ?_⟩
    · exact isAccepted_of_choose_eq (choose_of_set hset hform level)
    · exact isAccepted_of_choose_eq (choose_of_malformed hset hform level)
  · intro hunset
    have hfallback := isAccepted_of_choose_eq (choose_of_unset hunset level)
    refine ⟨fun filter hown => ?_, fun hown => ?_⟩
    · rw [hfallback, fallback_of_set hown]
    · rw [hfallback, fallback_of_unset hown]

/-- Each source in turn: a filter in the shared variable beside malformed ones, a malformed one in
the variable of this program, and the configured level alone. -/
theorem sources_decide_in_turn :
    let shared : Environment := [(ownVariable, "="), (sharedVariable, "debug,beacons=trace")]
    let own : Environment := [(ownVariable, "beacons=loud")]
    (shared.lookup sharedVariable = some "debug,beacons=trace" ∧
        check "debug,beacons=trace" ≠ .error .malformed ∧
        DecidesAlone "debug,beacons=trace" ∧ IsAccepted shared "=") ∧
      (own.lookup sharedVariable = none ∧ own.lookup ownVariable = some "beacons=loud" ∧
        ¬IsAccepted own "info") ∧
      IsAccepted [] "info" := by
  intro shared own
  have hset : shared.lookup sharedVariable = some "debug,beacons=trace" := by decide
  have hunset : own.lookup sharedVariable = none := by decide
  have hown : own.lookup ownVariable = some "beacons=loud" := by decide
  have hcheck : check "debug,beacons=trace" = .ok () := by decide +kernel
  have hform : check "debug,beacons=trace" ≠ .error .malformed := by rw [hcheck]; nofun
  have hloud : ¬IsFilter "beacons=loud" := by rw [← check_eq_ok_iff]; decide +kernel
  have hinfo : IsFilter "info" := by rw [← check_eq_ok_iff]; decide +kernel
  obtain ⟨hdecides, haccepted, -⟩ := (first_source_decides_iff shared "=").1 _ hset
  obtain ⟨hrejected, -⟩ := (first_source_decides_iff own "info").2 hunset
  obtain ⟨-, hlevel⟩ := (first_source_decides_iff [] "info").2 (by decide)
  refine ⟨⟨hset, hform, hdecides.mpr hform, ?_⟩, ⟨hunset, hown, ?_⟩, ?_⟩
  · exact (haccepted hform).mpr (check_eq_ok_iff.mp hcheck)
  · exact mt (hrejected _ hown).mp hloud
  · exact (hlevel (by decide)).mpr hinfo

/-- A malformed filter in the shared variable is not reported: the configured level decides in its
place. -/
theorem malformed_shared_filter_passed_over :
    let env : Environment := [(sharedVariable, "beacons=loud")]
    ¬IsFilter "beacons=loud" ∧ IsAccepted env "info" ∧ ¬IsAccepted env "=" ∧
      ¬DecidesAlone "beacons=loud" := by
  intro env
  have hset : env.lookup sharedVariable = some "beacons=loud" := by decide
  have haccepted : IsAccepted env "info" := ⟨"info", by decide +kernel⟩
  have hrejected : ¬IsAccepted env "=" := by
    rintro ⟨filter, h⟩
    have hchoice : choose env "=" = .error .malformed := by decide +kernel
    rw [hchoice] at h
    cases h
  refine ⟨?_, haccepted, hrejected, ?_⟩
  · rw [← check_eq_ok_iff]
    decide +kernel
  · exact fun hdecides => hrejected ((hdecides env env "info" "=" hset hset).mp haccepted)

end NearbyBeacons.LogFilter
