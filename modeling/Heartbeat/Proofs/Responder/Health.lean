import Heartbeat.Proofs.Message.RoundTrip
import Heartbeat.Proofs.Responder.Course
import Heartbeat.Responder.Settings

/-!
What becomes of a health responder. It answers every request it hears before it receives again,
and gives up with the first row of failures that is too long.
-/

namespace Heartbeat

/-- What is seen of receiving `n` times, when every request is answered at once. -/
def answered (arrivals : Nat → Arrival) (replies : Nat → Bytes) (n : Nat) : List Event :=
  (List.range n).flatMap fun i =>
    .call .receive ::
      if (arrivals i).isRequest .health then [.call (.send (replies i))] else []

namespace Responder

theorem rounds_of_health {responder : Responder} (health : responder.role = .health)
    (replies : Nat → Bytes) (arrivals : Nat → Arrival) (n : Nat) :
    responder.rounds replies arrivals n = answered arrivals replies n := by
  simp only [rounds, answered, round, health, Role.conclusion]

theorem exit?_of_health {responder : Responder} (health : responder.role = .health)
    {arrivals : Nat → Arrival} {n : Nat}
    (spared : ¬ FaultsEnd arrivals responder.threshold.toNat (n + 1)) :
    responder.exit? arrivals n = none := by
  by_cases request : (arrivals n).isRequest responder.role = true
  · rw [responder.exit?_of_request request, health]
  · exact responder.exit?_of_not_request spared (Bool.eq_false_iff.mpr request)

theorem failsAfter_of_health {responder : Responder} (health : responder.role = .health)
    {arrivals : Nat → Arrival} {n : Nat} {exit : Exit}
    (ends : responder.EndsWith arrivals n exit) :
    FailsAfter arrivals responder.threshold.toNat (n + 1) := by
  refine responder.failsAfter_of_endsWith ends ?_
  by_cases faults : FaultsEnd arrivals responder.threshold.toNat (n + 1)
  · exact faults
  · exact absurd (ends.exits.symm.trans (exit?_of_health health faults)) (Option.some_ne_none _)

end Responder

namespace Settings

/-- The course of a health responder, in any scenario in which no call brings it down. If there
are failures enough in a row it has received up to the last of them, has sent one reply right
after each request, and has closed its channel last. Otherwise it goes on like this for ever. Each
reply bears the date that is read in its own turn, and is about the same worker. -/
theorem course_of_health (settings : Settings) (endpoint : Endpoint) {clock : Clock}
    (valid : ∀ turn, (clock turn).Valid) (tick : Nat) {scenario : Scenario}
    (calm : scenario.Calm) :
    let responder := settings.responder .health endpoint
    let bound := max 1 settings.maxFailures
    ∃ (connecting : List Event) (turn : Nat → Nat),
      let replies n := responder.replyBytes (clock (turn n))
      responder.connector.BringsUp tick scenario connecting ∧
      (∀ n, turn n < turn (n + 1)) ∧
      (∀ n now, Envelope.Carries now .healthCheckReply WorkerHealth.ofValue
        settings.identity.health (replies n)) ∧
      (∀ n, FailsAfter scenario.arrivals bound.toNat n →
        responder.Ends clock tick scenario (.exhausted bound)
          (connecting ++ answered scenario.arrivals replies n ++ [.call .close])) ∧
      ((∀ n, ¬ FailsAfter scenario.arrivals bound.toNat n) →
        responder.Endures clock tick scenario scenario.arrivals fun n =>
          connecting ++ answered scenario.arrivals replies n) ∧
      (∀ n, (∀ i < n, scenario.arrivals i ≠ .silence) →
        (∀ k ≤ n, ¬ FaultsEnd scenario.arrivals bound.toNat k) →
        responder.Shows clock tick scenario
          (connecting ++ answered scenario.arrivals replies n)) := by
  intro responder bound
  have same : responder.threshold = bound := responder.threshold_eq_max
  obtain ⟨connecting, start, up, ends, endures, shows⟩ := responder.course clock tick calm
  have seen : ∀ n, connecting ++ responder.role.greeting ++
      responder.rounds (responder.replies clock start scenario.arrivals) scenario.arrivals n =
        connecting ++
          answered scenario.arrivals (responder.replies clock start scenario.arrivals) n := by
    intro n
    rw [Responder.rounds_of_health rfl]
    exact congrArg (· ++ _) (List.append_nil connecting)
  refine ⟨connecting, fun n => start + responder.turnsBefore scenario.arrivals n + 2, up, ?later,
    ?carries, ?fails, ?endless, ?shows⟩
  case later =>
    intro n
    have later := responder.turnsBefore_lt_succ scenario.arrivals n
    simp only
    omega
  case carries =>
    exact fun n => Envelope.carries_healthCheckReply (valid _) settings.identity.health
  case fails =>
    intro n fails
    rw [← same] at fails ⊢
    obtain ⟨last, rfl, ended⟩ := responder.endsWith_exhausted fails
      (fun i _ spared => Responder.exit?_of_health rfl spared)
    have closed := ends last _ ended
    rw [seen] at closed
    exact closed
  case endless =>
    intro endless
    rw [← same] at endless
    have running := endures fun n exit ended =>
      endless (n + 1) (Responder.failsAfter_of_health rfl ended)
    simp only [seen] at running
    exact running
  case shows =>
    intro n heard spared
    rw [← same] at spared
    have shown := shows n heard fun i early => Responder.exit?_of_health rfl (spared (i + 1) early)
    rw [seen] at shown
    exact shown

/-- A failure, two requests that wipe it out, and two failures that are too many. The clock shows
another second in each turn, and so the replies are made at different times. -/
theorem course_of_health_past_one_failure :
    let responder := (Settings.mk 0 2 ⟨"worker", 7⟩ .slept).responder .health (.new "health")
    ∃ (connecting : List Event) (turn : Nat → Nat), turn 1 < turn 2 ∧
      responder.Ends .minute 0
        (Scenario.ofArrivals fun n =>
          if n = 1 ∨ n = 2 then .datagram (Envelope.healthCheckRequest ⟨0, 0, 0⟩).encode
          else .fault .closed)
        (.exhausted 2)
        (connecting ++ [.call .receive, .call .receive,
          .call (.send (responder.replyBytes (Clock.minute (turn 1)))), .call .receive,
          .call (.send (responder.replyBytes (Clock.minute (turn 2)))), .call .receive,
          .call .receive, .call .close]) := by
  intro responder
  let arrivals : Nat → Arrival := fun n =>
    if n = 1 ∨ n = 2 then .datagram (Envelope.healthCheckRequest ⟨0, 0, 0⟩).encode
    else .fault .closed
  have calm : (Scenario.ofArrivals arrivals).Calm := Scenario.calm_ofArrivals fun n => by
    unfold arrivals
    split <;> exact Arrival.noConfusion
  have fails : FailsAfter arrivals 2 5 := ⟨by decide, by decide, by decide⟩
  obtain ⟨connecting, turn, -, later, -, ends, -⟩ :=
    (Settings.mk 0 2 ⟨"worker", 7⟩ .slept).course_of_health (.new "health") Clock.valid_minute
      0 calm
  have fault : (Arrival.fault .closed).isRequest .health = false := rfl
  have request : (arrivals 1).isRequest .health = true := by decide +kernel
  have request' : (arrivals 2).isRequest .health = true := request
  have seen : ∀ replies, answered arrivals replies 5 =
      [.call .receive, .call .receive, .call (.send (replies 1)), .call .receive,
        .call (.send (replies 2)), .call .receive, .call .receive] := by
    intro replies
    have first : arrivals 0 = .fault .closed := rfl
    have fourth : arrivals 3 = .fault .closed := rfl
    have fifth : arrivals 4 = .fault .closed := rfl
    have range : List.range 5 = [0, 1, 2, 3, 4] := rfl
    rw [answered, range]
    simp only [List.flatMap_cons, first, request, request', fourth, fifth, fault]
    rfl
  refine ⟨connecting, turn, later 1, ?_⟩
  have ended := ends 5 fails
  change Responder.Ends _ _ _ (Scenario.ofArrivals arrivals) _ (connecting ++
    answered arrivals _ 5 ++ _) at ended
  rw [seen, List.append_assoc] at ended
  exact ended

end Settings

end Heartbeat
