import Mathlib.Algebra.Ring.Nat
import Mathlib.Data.List.Chain
import Mathlib.Data.List.Nodup
import NearbyBeacons.Proofs.Roster.History
/-!
# The log of a run

What a run reports is enough to know what it did. Replaying the events gives the addresses of
the tracked beacons, the arrivals and departures of one address take turns, the events number
what the answers count, and the last filter that was reported is the one that is shown. The main
statement is `run_log`.

A step reports the beacons that come and go (`Step.changes`), and then what is shown
(`step_events`). That an address cannot arrive or depart twice in a row rests on the addresses of
the tracked beacons being distinct.
-/

namespace NearbyBeacons

/-! ### Reading a log -/

namespace Event

/-- What becomes of an address. -/
inductive Passage where
  | arrival
  | departure
  deriving DecidableEq, Repr

/-- What an event says about an address. -/
def passage? (address : String) : Event → Option Passage
  | newBeacon a _ => if a = address then some .arrival else none
  | beaconExpired a => if a = address then some .departure else none
  | _ => none

/-- What a log says about an address, in order. -/
def passages (address : String) (log : List Event) : List Passage :=
  log.filterMap (passage? address)

/-- A list of addresses after an event: a new one comes last, and one that expires goes. -/
def follow (addresses : List String) : Event → List String
  | newBeacon a _ => addresses ++ [a]
  | beaconExpired a => addresses.erase a
  | _ => addresses

/-- The addresses that a log leaves, starting from none. -/
def replay (log : List Event) : List String := log.foldl follow []

def isNewBeacon : Event → Bool
  | newBeacon .. => true
  | _ => false

def isBeaconExpired : Event → Bool
  | beaconExpired _ => true
  | _ => false

def isFilterApplied : Event → Bool
  | filterApplied .. => true
  | _ => false

theorem passages_append (address : String) (log more : List Event) :
    passages address (log ++ more) = passages address log ++ passages address more :=
  List.filterMap_append

theorem replay_append (log more : List Event) :
    replay (log ++ more) = more.foldl follow (replay log) :=
  List.foldl_append

/-- An address among distinct ones departs once. -/
theorem passages_map_beaconExpired {addresses : List String} (h : addresses.Nodup)
    (address : String) : passages address (addresses.map beaconExpired) =
      if address ∈ addresses then [.departure] else [] := by
  induction addresses with
  | nil => rfl
  | cons a addresses ih =>
    obtain ⟨hnew, hnodup⟩ := List.nodup_cons.mp h
    have ih := ih hnodup
    unfold passages at ih ⊢
    rw [List.map_cons, List.filterMap_cons, passage?]
    by_cases ha : a = address
    · subst ha
      simp [ih, hnew]
    · simp [ih, ha, Ne.symm ha]

theorem foldl_follow_map_beaconExpired (gone addresses : List String) :
    (gone.map beaconExpired).foldl follow addresses = addresses.diff gone := by
  rw [List.foldl_map, List.diff_eq_foldl]
  rfl

/-- Arrivals and departures that take turns, from an arrival on. The last one is an arrival if
the address is `present`. -/
structure Alternates (present : Prop) (ps : List Passage) : Prop where
  begins : ∀ p ∈ ps.head?, p = .arrival
  takesTurns : ps.IsChain (· ≠ ·)
  ends : ps.getLast? = some .arrival ↔ present

namespace Alternates

variable {present : Prop} {ps : List Passage}

theorem nil : Alternates False [] where
  begins := by simp
  takesTurns := List.IsChain.nil
  ends := by simp

theorem arrive (h : Alternates present ps) (habsent : ¬present) :
    Alternates True (ps ++ [.arrival]) where
  begins := by
    intro p hp
    cases ps with
    | nil => simpa using hp.symm
    | cons q qs => exact h.begins p hp
  takesTurns := by
    refine List.isChain_append.mpr ⟨h.takesTurns, List.IsChain.singleton _, ?_⟩
    intro p hp q hq heq
    have hq : q = .arrival := by simpa using hq.symm
    have hp : ps.getLast? = some p := hp
    exact habsent (h.ends.mp (by rw [hp, heq, hq]))
  ends := by simp

theorem depart (h : Alternates present ps) (hpresent : present) :
    Alternates False (ps ++ [.departure]) where
  begins := by
    intro p hp
    have hlast := h.ends.mpr hpresent
    cases ps with
    | nil => cases hlast
    | cons q qs => exact h.begins p hp
  takesTurns := by
    refine List.isChain_append.mpr ⟨h.takesTurns, List.IsChain.singleton _, ?_⟩
    intro p hp q hq heq
    have hq : q = .departure := by simpa using hq.symm
    have hp : ps.getLast? = some p := hp
    rw [h.ends.mpr hpresent] at hp
    have harrival : Passage.arrival = p := Option.some.inj hp
    rw [← harrival, hq] at heq
    cases heq
  ends := by simp

theorem congr {present' : Prop} (h : Alternates present ps) (hiff : present ↔ present') :
    Alternates present' ps :=
  ⟨h.begins, h.takesTurns, h.ends.trans hiff⟩

end Alternates

end Event

namespace Roster

open Event

/-! ### What a step reports -/

/-- Whether an observation was answered as that of a new beacon. -/
def Answer.created : Answer → Bool
  | recorded result => result.created
  | _ => false

/-- How many beacons a removal was answered to have removed. -/
def Answer.removed : Answer → Nat
  | expired removed => removed
  | _ => 0

/-- The beacons that come and go by a step, as it reports them. -/
def Step.changes : Step → List Beacon → List Event
  | filter _, _ => []
  | record _ o, beacons =>
    if DeviceAddress.normal o.address ∈ beacons.map (·.address) then []
    else [.newBeacon (DeviceAddress.normal o.address) o.rssi]
  | expire now timeout, beacons =>
    ((beacons.filter fun b => !isFresh now timeout b).map (·.address)).map .beaconExpired

/-- The event that tells what a roster shows. -/
def shown (r : Roster) : Event := .filterApplied r.query r.count r.total (.ofCount r.count)

theorem refilter_events (r : Roster) : r.refilter.events = [shown r.refilter.roster] := rfl

/-- A step reports what comes and goes, and then what is shown, unless nothing has changed. -/
theorem step_events (r : Roster) (s : Step) :
    (r.step s).events = s.changes r.beacons ++ [shown (r.step s).roster] ∨
      (r.step s).events = [] ∧ s.changes r.beacons = [] ∧ (r.step s).roster = r := by
  cases s with
  | filter query => exact .inl rfl
  | record now o =>
    left
    by_cases ho : DeviceAddress.normal o.address ∈ r.beacons.map (·.address)
    · simp only [step, record_eq, any_address_iff.mpr ho, refilter_events, Step.changes, if_pos ho]
      rfl
    · have hany := mt any_address_iff.mp ho
      rw [Bool.not_eq_true] at hany
      simp only [step, record_eq, hany, refilter_events, Step.changes, if_neg ho]
      rfl
  | expire now timeout =>
    simp only [step, expire]
    split
    · next hnone =>
      right
      rw [List.isEmpty_iff] at hnone
      exact ⟨rfl, by rw [Step.changes, hnone]; rfl, rfl⟩
    · left
      rw [Step.changes, List.map_map, refilter_events]
      rfl

/-- The changes that a step reports, replayed on the addresses from before. -/
theorem foldl_follow_changes (s : Step) {beacons : List Beacon}
    (h : (beacons.map (·.address)).Nodup) :
    (s.changes beacons).foldl follow (beacons.map (·.address)) =
      (s.onBeacons beacons).map (·.address) := by
  cases s with
  | filter query => rfl
  | record now o =>
    rw [Step.changes, Step.onBeacons, map_address_recordedIn]
    split <;> rfl
  | expire now timeout =>
    rw [Step.changes, Step.onBeacons, foldl_follow_map_beaconExpired, h.sdiff_eq_filter,
      List.filter_map]
    congr 1
    apply List.filter_congr
    intro b hb
    -- addresses are distinct, so only a stale beacon has the address of a stale one
    have hfresh : b.address ∉ (beacons.filter fun b => !isFresh now timeout b).map (·.address) ↔
        isFresh now timeout b = true := by
      constructor
      · intro hmem
        by_contra hstale
        rw [Bool.not_eq_true] at hstale
        exact hmem (List.mem_map_of_mem (List.mem_filter.mpr ⟨hb, by rw [hstale]; rfl⟩))
      · intro hfresh hmem
        obtain ⟨c, hc, hcb⟩ := List.mem_map.mp hmem
        obtain ⟨hc, hstale⟩ := List.mem_filter.mp hc
        rw [List.inj_on_of_nodup_map h hc hb hcb, hfresh] at hstale
        cases hstale
    exact Bool.eq_iff_iff.mpr (decide_eq_true_iff.trans hfresh)

/-- What a step reports of an address goes on taking turns. -/
theorem alternates_changes (s : Step) {beacons : List Beacon}
    (h : (beacons.map (·.address)).Nodup) {address : String} {ps : List Passage}
    (hps : Alternates (address ∈ beacons.map (·.address)) ps) :
    Alternates (address ∈ (s.onBeacons beacons).map (·.address))
      (ps ++ passages address (s.changes beacons)) := by
  cases s with
  | filter query =>
    show Alternates _ (ps ++ [])
    rw [List.append_nil]
    exact hps
  | record now o =>
    rw [Step.onBeacons, map_address_recordedIn, Step.changes]
    split
    · rw [passages, List.filterMap_nil, List.append_nil]
      exact hps
    · next ho =>
      by_cases ha : DeviceAddress.normal o.address = address
      · subst ha
        rw [show passages _ [newBeacon _ o.rssi] = [.arrival] by simp [passages, passage?]]
        exact (hps.arrive ho).congr (by simp)
      · rw [show passages address [newBeacon _ o.rssi] = [] by simp [passages, passage?, ha],
          List.append_nil]
        exact hps.congr (by simp [Ne.symm ha])
  | expire now timeout =>
    have hsub := (List.filter_sublist (l := beacons)
      (p := fun b => !isFresh now timeout b)).map (·.address)
    have hmem : address ∈ ((Step.expire now timeout).onBeacons beacons).map (·.address) ↔
        address ∈ beacons.map (·.address) ∧
          address ∉ (beacons.filter fun b => !isFresh now timeout b).map (·.address) := by
      rw [← foldl_follow_changes _ h, Step.changes, foldl_follow_map_beaconExpired,
        h.mem_sdiff_iff]
    rw [Step.changes, passages_map_beaconExpired (hsub.nodup h)]
    split
    · next hstale => exact (hps.depart (hsub.subset hstale)).congr (by simp [hmem, hstale])
    · next hfresh =>
      rw [List.append_nil]
      exact hps.congr (by simp [hmem, hfresh])

/-- The answer to a step counts what comes and goes. -/
theorem step_answer (r : Roster) (s : Step) :
    (s.changes r.beacons).countP isNewBeacon = [(r.step s).answer].countP Answer.created ∧
      (s.changes r.beacons).countP isBeaconExpired = (r.step s).answer.removed ∧
      (r.step s).roster.total + (r.step s).answer.removed =
        r.total + [(r.step s).answer].countP Answer.created := by
  have htotal : (r.step s).roster.total = (s.onBeacons r.beacons).length := by
    rw [total, step_beacons]
  rw [htotal, total]
  cases s with
  | filter query => exact ⟨rfl, rfl, rfl⟩
  | record now o =>
    have haddresses := congrArg List.length (map_address_recordedIn now o r.beacons)
    rw [List.length_map] at haddresses
    by_cases ho : DeviceAddress.normal o.address ∈ r.beacons.map (·.address)
    · have hlength : (recordedIn now o r.beacons).length = r.beacons.length := by
        rw [haddresses, if_pos ho, List.length_map]
      simp [Step.changes, ho, step, record_eq, any_address_iff.mpr ho, Answer.created,
        Answer.removed, Step.onBeacons, hlength]
    · have hany := mt any_address_iff.mp ho
      rw [Bool.not_eq_true] at hany
      have hlength : (recordedIn now o r.beacons).length = r.beacons.length + 1 := by
        rw [haddresses, if_neg ho, List.length_append, List.length_map, List.length_singleton]
      simp [Step.changes, ho, step, record_eq, hany, Answer.created, Answer.removed,
        Step.onBeacons, hlength, isNewBeacon, isBeaconExpired]
  | expire now timeout =>
    refine ⟨?_, ?_, ?_⟩
    · show _ = 0
      rw [Step.changes, List.countP_map, List.countP_eq_zero]
      exact fun _ _ => Bool.false_ne_true
    · have hgone : ∀ gone : List String,
          (gone.map beaconExpired).countP isBeaconExpired = gone.length := by
        intro gone
        rw [List.countP_map, List.countP_eq_length]
        exact fun _ _ => rfl
      rw [Step.changes, hgone, List.length_map]
      exact (expire_answer r now timeout).symm
    · show (r.beacons.filter _).length + (r.expire now timeout).answer = _
      rw [expire_answer, ← List.length_eq_length_filter_add]
      rfl

/-! ### What a run reports -/

theorem run_concat (r : Roster) (steps : List Step) (s : Step) :
    r.run (steps ++ [s]) =
      ⟨((r.run steps).roster.step s).roster,
        (r.run steps).answer ++ [((r.run steps).roster.step s).answer],
        (r.run steps).events ++ ((r.run steps).roster.step s).events⟩ := by
  rw [run_append]
  simp [run]

/-- What a log of a run from an empty roster says about the roster it ends with. -/
structure Accounts (labels : Labels) (o : Outcome (List Answer)) : Prop where
  replays : replay o.events = o.roster.beacons.map (·.address)
  alternates : ∀ address,
    Alternates (address ∈ o.roster.beacons.map (·.address)) (passages address o.events)
  created : o.events.countP isNewBeacon = o.answer.countP Answer.created
  removed : o.events.countP isBeaconExpired = (o.answer.map Answer.removed).sum
  balance : o.roster.total + o.events.countP isBeaconExpired = o.events.countP isNewBeacon
  shows : match (o.events.filter isFilterApplied).getLast? with
    | some e => e = shown o.roster
    | none => o.roster = ofBeacons [] labels

theorem accounts_nil (labels : Labels) : Accounts labels ((ofBeacons [] labels).run []) where
  replays := rfl
  alternates _ := Alternates.nil.congr (by simp [ofBeacons])
  created := rfl
  removed := rfl
  balance := rfl
  shows := rfl

theorem not_isFilterApplied_changes (s : Step) (beacons : List Beacon) :
    (s.changes beacons).filter isFilterApplied = [] := by
  rw [List.filter_eq_nil_iff]
  intro e he
  cases s with
  | filter query => cases he
  | record now o =>
    rw [Step.changes] at he
    split at he
    · cases he
    · rw [List.mem_singleton.mp he]
      exact Bool.false_ne_true
  | expire now timeout =>
    obtain ⟨a, -, rfl⟩ := List.mem_map.mp he
    exact Bool.false_ne_true

/-- Only the changes that a step reports are about tracked addresses. -/
theorem step_tally (r : Roster) (s : Step) :
    (∀ address, passages address (r.step s).events = passages address (s.changes r.beacons)) ∧
      (∀ addresses, (r.step s).events.foldl follow addresses =
        (s.changes r.beacons).foldl follow addresses) ∧
      (r.step s).events.countP isNewBeacon = (s.changes r.beacons).countP isNewBeacon ∧
      (r.step s).events.countP isBeaconExpired = (s.changes r.beacons).countP isBeaconExpired := by
  rcases step_events r s with hevents | ⟨hevents, hchanges, -⟩
  · rw [hevents]
    simp [passages, passage?, shown, follow, isNewBeacon, isBeaconExpired]
  · rw [hevents, hchanges]
    exact ⟨fun _ => rfl, fun _ => rfl, rfl, rfl⟩

/-- One more step keeps the accounts. -/
theorem accounts_step {labels : Labels} {o : Outcome (List Answer)} (h : Accounts labels o)
    (hnodup : (o.roster.beacons.map (·.address)).Nodup) (s : Step) :
    Accounts labels ⟨(o.roster.step s).roster, o.answer ++ [(o.roster.step s).answer],
      o.events ++ (o.roster.step s).events⟩ := by
  obtain ⟨hcreated, hremoved, hbalance⟩ := step_answer o.roster s
  obtain ⟨hpassages, hfollow, hnew, hgone⟩ := step_tally o.roster s
  refine ⟨?replays, ?alternates, ?created, ?removed, ?balance, ?shows⟩
  case replays =>
    rw [replay_append, h.replays, hfollow, foldl_follow_changes s hnodup,
      step_beacons]
  case alternates =>
    intro address
    rw [passages_append, hpassages, step_beacons]
    exact alternates_changes s hnodup (h.alternates address)
  case created =>
    rw [List.countP_append, List.countP_append, h.created, hnew, hcreated]
  case removed =>
    rw [List.countP_append, h.removed, hgone, hremoved]
    simp
  case balance =>
    have hbefore := h.balance
    rw [List.countP_append, List.countP_append, hnew, hgone, hcreated, hremoved]
    simp only
    omega
  case shows =>
    have hbefore := h.shows
    rw [List.filter_append]
    rcases step_events o.roster s with hevents | ⟨hevents, -, hroster⟩
    · -- what was shown before no longer matters
      rw [hevents, List.filter_append, not_isFilterApplied_changes]
      simp [shown, isFilterApplied]
    · rw [hevents, hroster]
      simpa using hbefore

theorem run_accounts (labels : Labels) (steps : List Step) :
    Accounts labels ((ofBeacons [] labels).run steps) := by
  induction steps using List.reverseRecOn with
  | nil => exact accounts_nil labels
  | append_singleton steps s ih =>
    rw [run_concat]
    exact accounts_step ih (run_tracks labels steps).nodup s

/-- **The log is a faithful account of a run.** Replaying the events of a run from an empty
roster gives the addresses of the tracked beacons, in order. Every address arrives first, and
then departs and arrives in turns. There is one arrival for every observation that was answered
as that of a new beacon, and one departure for every beacon that removals were answered to have
removed, so that the tracked beacons are those that arrived less those that departed. The last
filter that was reported is the one whose result is shown; as long as none was, the roster is
the empty one that the run began with. -/
theorem run_log (labels : Labels) (steps : List Step) :
    let o := (ofBeacons [] labels).run steps
    let r := o.roster
    replay o.events = r.beacons.map (·.address) ∧
      (∀ address, (∀ p ∈ (passages address o.events).head?, p = .arrival) ∧
        (passages address o.events).IsChain (· ≠ ·)) ∧
      o.events.countP isNewBeacon = o.answer.countP Answer.created ∧
      o.events.countP isBeaconExpired = (o.answer.map Answer.removed).sum ∧
      r.total + o.events.countP isBeaconExpired = o.events.countP isNewBeacon ∧
      match (o.events.filter isFilterApplied).getLast? with
      | some e => e = .filterApplied r.query r.count r.total (.ofCount r.count)
      | none => r.beacons = [] ∧ r.query = none ∧ r.view = .all := by
  intro o r
  have h : Accounts labels o := run_accounts labels steps
  refine ⟨h.replays, fun address => ?_, h.created, h.removed, h.balance, ?_⟩
  · exact ⟨(h.alternates address).begins, (h.alternates address).takesTurns⟩
  · have hshows := h.shows
    cases hlast : (o.events.filter isFilterApplied).getLast? with
    | some e =>
      rw [hlast] at hshows
      exact hshows
    | none =>
      rw [hlast] at hshows
      have hr : r = ofBeacons [] labels := hshows
      rw [hr]
      exact ⟨rfl, rfl, rfl⟩

end Roster

end NearbyBeacons
