import NearbyBeacons.Proofs.Observation
import NearbyBeacons.Proofs.Roster.Run
import NearbyBeacons.Proofs.Service.Answer
/-!
# What becomes of an observation

An observation whose body is announced as JSON and is not too long is taken in exactly when its
body can be decoded and holds a sound observation. Otherwise the answer names the first fault,
of the text, of the address, of the signal strength and of the transmit power in this order, and
the service stays as it was (`answer_of_announced_observation`).
-/

namespace NearbyBeacons

open Observation (FitsByte)

/-- An observation adds one beacon if it is answered as that of a new one, and none if not. -/
theorem Roster.total_record (r : Roster) (now : Instant) (o : Observation) :
    (r.record now o).roster.total =
      r.total + if (r.record now o).answer.created = true then 1 else 0 := by
  have hlength : (r.record now o).roster.total =
      ((recordedIn now o r.beacons).map (·.address)).length := by
    rw [record_roster, List.length_map]
    rfl
  have htotal : r.total = (r.beacons.map (·.address)).length := (List.length_map _).symm
  rw [hlength, htotal, map_address_recordedIn]
  by_cases ho : DeviceAddress.normal o.address ∈ r.beacons.map (·.address)
  · rw [if_pos ho, if_neg (by rw [created_iff]; exact not_not_intro ho), Nat.add_zero]
  · rw [if_neg ho, if_pos ((r.created_iff now o).mpr ho), List.length_append]
    rfl

/-- A body that is announced as JSON and is not too long is decoded. -/
theorem bodyOf_of_announced {α : Type} (f : Json.Decoder α) {r : Http.Request}
    (hjson : (r.headers.value? "content-type").any Http.announcesJson = true)
    (hsize : r.body.utf8ByteSize ≤ maxBodyBytes) :
    bodyOf f r = (f.decodeText r.body.toList).mapError BodyFault.ofFailure := by
  unfold bodyOf
  rw [hjson, if_neg (by decide), if_neg (Nat.not_lt.mpr hsize)]
  cases f.decodeText r.body.toList <;> rfl

namespace Service

/-- A request is refused under a code, without an effect. -/
def Refuses (s : Service) (turn : Turn Http.Response) (code message : String) : Prop :=
  turn = ⟨s, (Http.Response.ofJson 400 (Problem.toJson { code, message })).addHeaders
    sharingHeaders, []⟩

/-- The sentence about a signal value that no radio reports. -/
def signalMessage (signal : Signal) (value : Int16) : String :=
  "Invalid " ++ signal.name ++ ": " ++ Decimal.intText value.toInt ++ " dBm is outside -128..=127"

theorem signalMessage_eq (signal : Signal) (value : Int16) :
    signalMessage signal value = "Invalid " ++ signal.name ++ ": " ++
      Decimal.intText value.toInt ++ " dBm is outside " ++
      Decimal.intText Observation.minSignal ++ "..=" ++ Decimal.intText Observation.maxSignal := by
  have hrange : " dBm is outside -128..=127" = " dBm is outside " ++
      (Decimal.intText Observation.minSignal ++ ("..=" ++
        Decimal.intText Observation.maxSignal)) := by
    decide +kernel
  rw [signalMessage, hrange]
  simp only [String.append_assoc]

/-! ### Observations that can be decoded -/

section Observations

variable (s : Service) (now : Instant) {r : Http.Request} {o : Observation}

theorem refuses_of_bad_address (h : r.PostsObservation)
    (hbody : bodyOf Observation.record.decode r = .ok o)
    (haddress : ¬DeviceAddress.IsGrouped o.address) :
    s.Refuses (s.answer now r) "invalid_device_address"
      ("Invalid device address: '" ++ o.address ++ "'. Expected format XX:XX:XX:XX:XX:XX.") := by
  rw [s.answer_of_invalid now h hbody (Observation.validate_of_bad_address haddress),
    Refusal.ofError_invalidAddress]
  rfl

theorem refuses_of_bad_signal (h : r.PostsObservation)
    (hbody : bodyOf Observation.record.decode r = .ok o) {signal : Signal} {value : Int16}
    (hvalid : o.validate = .error (.signalOutOfRange signal value.toInt Observation.minSignal
      Observation.maxSignal)) :
    s.Refuses (s.answer now r) "signal_out_of_range" (signalMessage signal value) := by
  rw [s.answer_of_invalid now h hbody hvalid, Refusal.ofError_signalOutOfRange, signalMessage_eq]
  rfl

/-- A sound observation is taken in, and the answer tells whether it adds a beacon. -/
theorem exists_answer_of_sound (h : r.PostsObservation)
    (hbody : bodyOf Observation.record.decode r = .ok o) (hsound : o.IsSound) :
    ∃ a : ObservationAnswer, (s.answer now r).answer = granted a.toJson ∧
      (a.created = true ↔ (s.answer now r).service.roster.total = s.roster.total + 1) ∧
      (a.created = false ↔ (s.answer now r).service.roster.total = s.roster.total) := by
  rw [s.answer_of_valid now h hbody (Observation.validate_of_sound hsound)]
  refine ⟨_, rfl, ?_⟩
  have htotal := s.roster.total_record now o
  show ((s.roster.record now o).answer.created = true ↔
      (s.roster.record now o).roster.total = s.roster.total + 1) ∧
    ((s.roster.record now o).answer.created = false ↔
      (s.roster.record now o).roster.total = s.roster.total)
  rw [htotal]
  cases (s.roster.record now o).answer.created <;> simp

theorem status_eq_ok_iff_sound (h : r.PostsObservation)
    (hbody : bodyOf Observation.record.decode r = .ok o) :
    (s.answer now r).answer.status = 200 ↔ o.IsSound := by
  rw [← Observation.validate_eq_ok_iff]
  rcases hvalid : o.validate with e | ⟨⟨⟩⟩
  · refine iff_of_false ?_ nofun
    rw [s.answer_of_invalid now h hbody hvalid]
    intro hstatus
    exact absurd ((Refusal.ofError e).le_status.trans_eq hstatus) (by decide)
  · rw [s.answer_of_valid now h hbody hvalid]
    exact iff_of_true rfl rfl

end Observations

/-! ### All observations -/

/-- **An observation is taken in exactly when it is sound.** In every state, let an observation
be posted in a body that is announced as JSON and is not too long. The answer is 200 exactly
when the body can be decoded and holds a sound observation; then the answer tells a new beacon
exactly when one more beacon is tracked, and otherwise as many are tracked as before. An
observation with a bad address is refused on account of the address, whatever its signals are;
with a good address, on account of the signal strength, if that is bad; and with a good signal
strength, on account of the transmit power. A text that is no JSON is answered with 400, and
JSON of another shape with 422. Nothing that is not taken in has an effect. -/
theorem answer_of_announced_observation (s : Service) (now : Instant) {r : Http.Request}
    (hpost : r.PostsObservation)
    (hjson : (r.headers.value? "content-type").any Http.announcesJson = true)
    (hsize : r.body.utf8ByteSize ≤ maxBodyBytes) :
    let decoded := Observation.record.decode.decodeText r.body.toList
    let turn := s.answer now r
    (turn.answer.status = 200 ↔ ∃ o, decoded = .ok o ∧ o.IsSound) ∧
      (∀ o, decoded = .ok o →
        (o.IsSound → ∃ a : ObservationAnswer, turn.answer = granted a.toJson ∧
          (a.created = true ↔ turn.service.roster.total = s.roster.total + 1) ∧
          (a.created = false ↔ turn.service.roster.total = s.roster.total)) ∧
        (¬DeviceAddress.IsGrouped o.address →
          s.Refuses turn "invalid_device_address"
            ("Invalid device address: '" ++ o.address ++
              "'. Expected format XX:XX:XX:XX:XX:XX.")) ∧
        (DeviceAddress.IsGrouped o.address → ¬FitsByte o.rssi →
          s.Refuses turn "signal_out_of_range" (signalMessage .rssi o.rssi)) ∧
        ∀ frame, o.uidFrame = some frame → DeviceAddress.IsGrouped o.address →
          FitsByte o.rssi → ¬FitsByte frame.txPower →
          s.Refuses turn "signal_out_of_range" (signalMessage .txPower frame.txPower)) ∧
      (decoded = .error .syntactic → turn.answer.status = 400 ∧ turn.service = s) ∧
      (decoded = .error .data → turn.answer.status = 422 ∧ turn.service = s) := by
  intro decoded turn
  have hbody : bodyOf Observation.record.decode r = decoded.mapError BodyFault.ofFailure :=
    bodyOf_of_announced _ hjson hsize
  have hread : ∀ o, decoded = .ok o → bodyOf Observation.record.decode r = .ok o := by
    intro o ho
    rw [hbody, ho]
    rfl
  have hunread : ∀ failure, decoded = .error failure →
      turn = ⟨s, (BodyFault.ofFailure failure).response.addHeaders sharingHeaders, []⟩ := by
    intro failure hfailure
    refine s.answer_of_unreadable now hpost ?_
    rw [hbody, hfailure]
    rfl
  refine ⟨⟨?_, ?_⟩, fun o ho => ⟨?_, ?_, ?_, ?_⟩, ?_, ?_⟩
  · intro hstatus
    cases hdecoded : decoded with
    | error failure =>
      rw [hunread failure hdecoded] at hstatus
      exact absurd ((BodyFault.ofFailure failure).le_status.trans_eq hstatus) (by decide)
    | ok o => exact ⟨o, rfl, (s.status_eq_ok_iff_sound now hpost (hread o hdecoded)).mp hstatus⟩
  · rintro ⟨o, ho, hsound⟩
    exact (s.status_eq_ok_iff_sound now hpost (hread o ho)).mpr hsound
  · exact s.exists_answer_of_sound now hpost (hread o ho)
  · exact s.refuses_of_bad_address now hpost (hread o ho)
  · intro haddress hrssi
    exact s.refuses_of_bad_signal now hpost (hread o ho)
      (Observation.validate_of_bad_rssi haddress hrssi)
  · intro frame hframe haddress hrssi htxPower
    exact s.refuses_of_bad_signal now hpost (hread o ho)
      (Observation.validate_of_bad_txPower haddress hrssi hframe htxPower)
  · intro h
    rw [hunread _ h]
    exact ⟨rfl, rfl⟩
  · intro h
    rw [hunread _ h]
    exact ⟨rfl, rfl⟩

/-- With nothing tracked, the observation of a new beacon is taken in, a bad address is refused
whatever the signal strength is, and a bad signal strength whatever the transmit power is. -/
theorem announced_observations_answered :
    let now : Instant := ⟨0, 0, by decide, by decide, by decide, by decide⟩
    let s := start {}
    let post (body : String) : Http.Request := .json .post "/api/beacons/observations" body
    let good := post "[\"aa:bb:cc:dd:ee:ff\",-60,null,[null,-20]]"
    let badAddress := post "[\"aa:bb\",-600]"
    let badRssi := post "[\"aa:bb:cc:dd:ee:ff\",-600,null,[null,300]]"
    (∀ r ∈ [good, badAddress, badRssi], r.PostsObservation ∧
        (r.headers.value? "content-type").any Http.announcesJson = true ∧
        r.body.utf8ByteSize ≤ maxBodyBytes) ∧
      (∃ a : ObservationAnswer, (s.answer now good).answer = granted a.toJson ∧
        a.created = true) ∧
      s.Refuses (s.answer now badAddress) "invalid_device_address"
        ("Invalid device address: '" ++ "aa:bb" ++ "'. Expected format XX:XX:XX:XX:XX:XX.") ∧
      s.Refuses (s.answer now badRssi) "signal_out_of_range" (signalMessage .rssi (-600)) := by
  intro now s post good badAddress badRssi
  have hannounced : ∀ r ∈ [good, badAddress, badRssi], r.PostsObservation ∧
      (r.headers.value? "content-type").any Http.announcesJson = true ∧
      r.body.utf8ByteSize ≤ maxBodyBytes := by
    have hpath : Http.pathOf "/api/beacons/observations".toList =
        "/api/beacons/observations".toList := by decide +kernel
    have hjson : (Http.Headers.value? [("content-type", "application/json")] "content-type").any
        Http.announcesJson = true := by decide +kernel
    simp only [List.forall_mem_cons]
    exact ⟨⟨⟨rfl, hpath⟩, hjson, by decide +kernel⟩, ⟨⟨rfl, hpath⟩, hjson, by decide +kernel⟩,
      ⟨⟨rfl, hpath⟩, hjson, by decide +kernel⟩, nofun⟩
  refine ⟨hannounced, ?_, ?_, ?_⟩
  · obtain ⟨hpost, hjson, hsize⟩ := hannounced good (by simp)
    obtain ⟨-, hread, -⟩ := answer_of_announced_observation s now hpost hjson hsize
    have hdecoded : Observation.record.decode.decodeText good.body.toList =
        .ok
          { address := "aa:bb:cc:dd:ee:ff", rssi := -60, uidFrame := some { txPower := -20 } } := by
      decide +kernel
    have haddress : DeviceAddress.IsGrouped "aa:bb:cc:dd:ee:ff" :=
      DeviceAddress.isValid_iff.mp (by decide +kernel)
    obtain ⟨a, hanswer, hcreated, -⟩ := (hread _ hdecoded).1
      { address := haddress
        rssi := ⟨by decide, by decide⟩
        txPower := by
          intro frame hframe
          obtain rfl := Option.some.inj hframe
          exact ⟨by decide, by decide⟩ }
    exact ⟨a, hanswer, hcreated.mpr (by decide +kernel)⟩
  · obtain ⟨hpost, hjson, hsize⟩ := hannounced badAddress (by simp)
    obtain ⟨-, hread, -⟩ := answer_of_announced_observation s now hpost hjson hsize
    have hdecoded : Observation.record.decode.decodeText badAddress.body.toList =
        .ok { address := "aa:bb", rssi := -600 } := by
      decide +kernel
    exact (hread _ hdecoded).2.1 (mt DeviceAddress.isValid_iff.mpr (by decide +kernel))
  · obtain ⟨hpost, hjson, hsize⟩ := hannounced badRssi (by simp)
    obtain ⟨-, hread, -⟩ := answer_of_announced_observation s now hpost hjson hsize
    have hdecoded : Observation.record.decode.decodeText badRssi.body.toList =
        .ok { address := "aa:bb:cc:dd:ee:ff", rssi := -600,
              uidFrame := some { txPower := 300 } } := by
      decide +kernel
    have haddress : DeviceAddress.IsGrouped "aa:bb:cc:dd:ee:ff" :=
      DeviceAddress.isValid_iff.mp (by decide +kernel)
    exact (hread _ hdecoded).2.2.1 haddress fun h => absurd h.1 (by decide)

end Service

end NearbyBeacons
