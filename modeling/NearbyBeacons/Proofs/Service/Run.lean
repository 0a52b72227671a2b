import NearbyBeacons.Proofs.Roster.Run
import NearbyBeacons.Service.Handler
/-!
# Runs of the service

The service takes requests and sweeps in any order. Whatever a request asks for, it comes to at
most one call on the roster: another query, or an observation that is accepted
(`answer_service`). A run of the service therefore is a run of its roster over the calls that
the requests and sweeps come to, and leaves the settings alone (`run_eq`).
-/

namespace NearbyBeacons.Service

/-! ### Calls -/

/-- The observation that the body of a request holds, if it is accepted. -/
def observationOf? (r : Http.Request) : Option Observation :=
  match bodyOf Observation.record.decode r with
  | .error _ => none
  | .ok o => match o.validate with
    | .error _ => none
    | .ok () => some o

/-- The query that the body of a request holds, with `none` inside for no query. -/
def queryOf? (r : Http.Request) : Option (Option String) :=
  match bodyOf FilterRequest.record.decode r with
  | .error _ => none
  | .ok request => some request.query

/-- The call on the roster that a request comes to. -/
def callOf? (now : Instant) (r : Http.Request) : Option Roster.Step :=
  match Route.ofPath? (Http.pathOf r.target.toList), r.method with
  | some .filter, .put => (queryOf? r).map .filter
  | some .observations, .post => (observationOf? r).map (.record now)
  | _, _ => none

/-- The service after a call on its roster, if there is one. -/
def after (s : Service) (call : Option Roster.Step) : Service :=
  { s with roster := (s.roster.run call.toList).roster }

@[simp] theorem after_none (s : Service) : s.after none = s := rfl

/-- A filter request changes the service by the call that it holds, and not otherwise. -/
theorem respondToFilter_service (s : Service) (r : Http.Request) :
    (s.respondToFilter r).service = s.after ((queryOf? r).map .filter) := by
  unfold respondToFilter queryOf?
  cases bodyOf FilterRequest.record.decode r <;> rfl

/-- An observation that is not accepted leaves the service as it was. -/
theorem postObservation_service (s : Service) (now : Instant) (o : Observation) :
    (s.postObservation now o).service =
      match o.validate with
      | .error _ => s
      | .ok () => s.after (some (.record now o)) := by
  unfold postObservation
  cases o.validate <;> rfl

theorem respondToObservation_service (s : Service) (now : Instant) (r : Http.Request) :
    (s.respondToObservation now r).service = s.after ((observationOf? r).map (.record now)) := by
  unfold respondToObservation observationOf?
  cases bodyOf Observation.record.decode r with
  | error fault => rfl
  | ok o =>
    show (s.postObservation now o).service = _
    rw [postObservation_service]
    dsimp only
    cases o.validate <;> rfl

/-- What a request leaves is what the call it comes to leaves. -/
theorem answer_service (s : Service) (now : Instant) (r : Http.Request) :
    (s.answer now r).service = s.after (callOf? now r) := by
  unfold answer callOf?
  -- a request for options is answered before the route is looked at
  by_cases hoptions : r.method = .options
  · rw [if_pos hoptions, hoptions]
    split <;> simp_all
  · rw [if_neg hoptions]
    cases hroute : Route.ofPath? (Http.pathOf r.target.toList) with
    | none => rfl
    | some route =>
      dsimp only
      by_cases hmethod : r.method ∈ route.methods
      · rw [if_pos hmethod]
        cases route with
        | filter =>
          rw [List.mem_singleton.mp hmethod]
          exact respondToFilter_service s r
        | observations =>
          rw [List.mem_singleton.mp hmethod]
          exact respondToObservation_service s now r
        | health => rfl
        | beacons => rfl
        | row segment => rfl
        | document => rfl
      -- the method that a changing route wants is one that the route has
      · rw [if_neg hmethod]
        split
        · next hput => simp_all [Route.methods]
        · next hpost => simp_all [Route.methods]
        · rfl

/-! ### Steps -/

/-- What can happen to the service, at a clock reading. -/
inductive Step where
  | request (now : Instant) (r : Http.Request)
  | sweep (now : Instant)
  deriving DecidableEq, Repr

/-- The service after a step. -/
def step (s : Service) : Step → Service
  | .request now r => (s.answer now r).service
  | .sweep now => (s.sweep now).service

/-- The service after a run. -/
def run (s : Service) (steps : List Step) : Service := steps.foldl step s

/-- The call on the roster that a step comes to, where sweeps use a timeout. -/
def Step.call? (timeout : Span) : Step → Option Roster.Step
  | request now r => callOf? now r
  | sweep now => some (.expire now timeout)

/-- The calls on the roster that a run comes to. -/
def calls (settings : Settings) (steps : List Step) : List Roster.Step :=
  steps.filterMap (Step.call? settings.tracking.staleTimeout)

theorem validate_of_observationOf? {r : Http.Request} {o : Observation}
    (h : observationOf? r = some o) : o.validate = .ok () := by
  unfold observationOf? at h
  split at h
  · cases h
  · split at h
    · cases h
    · next hvalid =>
      cases h
      exact hvalid

/-- The calls that a run comes to: other queries, valid observations, and removals with the
timeout of the settings. -/
theorem call_cases {settings : Settings} {steps : List Step} {call : Roster.Step}
    (h : call ∈ calls settings steps) :
    (∃ query, call = .filter query) ∨
      (∃ now o, call = .record now o ∧ o.validate = .ok ()) ∨
      ∃ now, call = .expire now settings.tracking.staleTimeout := by
  obtain ⟨t, -, ht⟩ := List.mem_filterMap.mp h
  cases t with
  | request now r =>
    unfold Step.call? callOf? at ht
    dsimp only at ht
    split at ht
    · obtain ⟨query, -, rfl⟩ := Option.map_eq_some_iff.mp ht
      exact .inl ⟨query, rfl⟩
    · obtain ⟨o, ho, rfl⟩ := Option.map_eq_some_iff.mp ht
      exact .inr (.inl ⟨now, o, rfl, validate_of_observationOf? ho⟩)
    · cases ht
  | sweep now =>
    cases ht
    exact .inr (.inr ⟨now, rfl⟩)

/-- A step changes the service by the call that it comes to. -/
theorem step_eq (s : Service) (t : Step) :
    s.step t = s.after (t.call? s.settings.tracking.staleTimeout) := by
  cases t with
  | request now r => exact answer_service s now r
  | sweep now => rfl

theorem calls_append (settings : Settings) (steps more : List Step) :
    calls settings (steps ++ more) = calls settings steps ++ calls settings more :=
  List.filterMap_append

/-- A run of the service is a run of its roster over the calls that the steps come to. -/
theorem run_eq (s : Service) (steps : List Step) :
    s.run steps = { s with roster := (s.roster.run (calls s.settings steps)).roster } := by
  induction steps generalizing s with
  | nil => rfl
  | cons t steps ih =>
    have hcalls : calls s.settings (t :: steps) =
        (t.call? s.settings.tracking.staleTimeout).toList ++ calls s.settings steps := by
      unfold calls
      rw [List.filterMap_cons]
      cases t.call? s.settings.tracking.staleTimeout <;> rfl
    show (s.step t).run steps = _
    rw [ih, step_eq, hcalls, Roster.run_append]
    rfl

end NearbyBeacons.Service
