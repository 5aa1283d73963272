import Heartbeat.Proofs.Message.RoundTrip
import Heartbeat.Proofs.Responder.Course
import Heartbeat.Responder.Settings

/-!
What becomes of a termination responder. It receives until it hears the first request, which it
answers and ends with, or until the first row of failures that is too long.
-/

namespace Heartbeat

/-- Arrival `n` is the first request to terminate, and all before it are heard. -/
structure RequestedAt (arrivals : Nat → Arrival) (n : Nat) : Prop where
  heard : ∀ i < n, arrivals i ≠ .silence
  request : (arrivals n).isRequest .termination = true
  first : ∀ i < n, (arrivals i).isRequest .termination = false

theorem RequestedAt.heard_through {arrivals : Nat → Arrival} {n : Nat}
    (requested : RequestedAt arrivals n) : ∀ i ≤ n, arrivals i ≠ .silence := by
  intro i below
  rcases Nat.lt_or_eq_of_le below with early | rfl
  · exact requested.heard i early
  · intro silence
    have request := requested.request
    rw [silence] at request
    exact Bool.false_ne_true request

/-- Without a first request there is none as long as anything is heard. -/
theorem unasked_of_unrequested {arrivals : Nat → Arrival}
    (unrequested : ∀ n, ¬ RequestedAt arrivals n) {n : Nat}
    (heard : ∀ i, i + 1 < n → arrivals i ≠ .silence) :
    ∀ i < n, (arrivals i).isRequest .termination = false := by
  intro i
  induction i using Nat.strongRecOn with
  | ind i ih =>
      intro early
      by_contra request
      refine unrequested i ⟨fun j before => heard j (by omega), Bool.not_eq_false _ ▸ request, ?_⟩
      exact fun j before => ih j before (Nat.lt_trans before early)

namespace Responder

theorem rounds_of_termination {responder : Responder} (termination : responder.role = .termination)
    (replies : Nat → Bytes) {arrivals : Nat → Arrival} {n : Nat}
    (unasked : ∀ i < n, (arrivals i).isRequest .termination = false) :
    responder.rounds replies arrivals n = List.replicate n (.call .receive) := by
  induction n with
  | zero => rfl
  | succ n ih =>
      have last : responder.round (replies n) (arrivals n) = [.call .receive] := by
        rw [round, termination, unasked n (Nat.lt_succ_self n)]
        rfl
      have before := ih fun i early => unasked i (Nat.lt_succ_of_lt early)
      rw [rounds_succ, before, last, List.replicate_succ']

/-- The rounds up to a first request, with the reply to it. -/
theorem rounds_of_requested {responder : Responder} (termination : responder.role = .termination)
    (replies : Nat → Bytes) {arrivals : Nat → Arrival} {n : Nat}
    (requested : RequestedAt arrivals n) :
    responder.rounds replies arrivals (n + 1) =
      List.replicate (n + 1) (.call .receive) ++
        [.call (.send (replies n)), .milestone .requested] := by
  have last : responder.round (replies n) (arrivals n) =
      [.call .receive, .call (.send (replies n)), .milestone .requested] := by
    rw [round, termination, requested.request]
    rfl
  have before := rounds_of_termination termination replies requested.first
  rw [rounds_succ, before, last, List.replicate_succ', List.append_assoc]
  rfl

theorem exit?_of_termination {responder : Responder} (termination : responder.role = .termination)
    {arrivals : Nat → Arrival} {n : Nat}
    (spared : ¬ FaultsEnd arrivals responder.threshold.toNat (n + 1))
    (unasked : (arrivals n).isRequest .termination = false) :
    responder.exit? arrivals n = none :=
  responder.exit?_of_not_request spared (termination ▸ unasked)

theorem exit?_of_request_to_terminate {responder : Responder}
    (termination : responder.role = .termination) {arrivals : Nat → Arrival} {n : Nat}
    (request : (arrivals n).isRequest .termination = true) :
    responder.exit? arrivals n = some .terminated := by
  rw [responder.exit?_of_request (termination ▸ request), termination]

theorem endsWith_terminated {responder : Responder} (termination : responder.role = .termination)
    {arrivals : Nat → Arrival} {n : Nat} (requested : RequestedAt arrivals n)
    (spared : ∀ k ≤ n, ¬ FaultsEnd arrivals responder.threshold.toNat k) :
    responder.EndsWith arrivals n .terminated := by
  refine ⟨requested.heard_through, fun i early => ?_, ?_⟩
  · exact exit?_of_termination termination (spared (i + 1) early) (requested.first i early)
  · exact exit?_of_request_to_terminate termination requested.request

theorem requested_or_failed {responder : Responder} (termination : responder.role = .termination)
    {arrivals : Nat → Arrival} {n : Nat} {exit : Exit}
    (ends : responder.EndsWith arrivals n exit) :
    RequestedAt arrivals n ∨ FailsAfter arrivals responder.threshold.toNat (n + 1) := by
  by_cases faults : FaultsEnd arrivals responder.threshold.toNat (n + 1)
  · exact .inr (responder.failsAfter_of_endsWith ends faults)
  · left
    refine ⟨fun i early => ends.heard i (Nat.le_of_lt early), ?_, fun i early => ?_⟩
    · by_contra notRequest
      have none := exit?_of_termination termination faults (Bool.eq_false_iff.mpr notRequest)
      exact Option.some_ne_none exit (ends.exits.symm.trans none)
    · by_contra request
      have some := exit?_of_request_to_terminate termination (Bool.not_eq_false _ ▸ request)
      exact Option.some_ne_none _ (some.symm.trans (ends.goesOn i early))

end Responder

namespace Settings

/-- The course of a termination responder, in any scenario in which no call brings it down. It
raises its first signal and receives. At the first request, unless failures were enough in a row
before, it replies, raises its second signal, closes its channel and ends; at the last of such
failures, unless there was a request, it only closes its channel and ends. With neither it goes
on receiving for ever. A reply bears the date that is read in its own turn. -/
theorem course_of_termination (settings : Settings) (endpoint : Endpoint) {clock : Clock}
    (valid : ∀ turn, (clock turn).Valid) (tick : Nat) {scenario : Scenario}
    (calm : scenario.Calm) :
    let responder := settings.responder .termination endpoint
    let bound := max 1 settings.maxFailures
    ∃ (connecting : List Event) (turn : Nat → Nat),
      let replies n := responder.replyBytes (clock (turn n))
      responder.connector.BringsUp tick scenario connecting ∧
      (∀ n now, Envelope.Carries now .terminateWorkerReply WorkerTermination.ofValue
        ⟨settings.identity.name, settings.identity.pid, true⟩ (replies n)) ∧
      (∀ n, RequestedAt scenario.arrivals n →
        (∀ k ≤ n, ¬ FaultsEnd scenario.arrivals bound.toNat k) →
        responder.Ends clock tick scenario .terminated
          (connecting ++ .milestone .connected :: List.replicate (n + 1) (.call .receive) ++
            [.call (.send (replies n)), .milestone .requested, .call .close])) ∧
      (∀ n, FailsAfter scenario.arrivals bound.toNat n →
        (∀ i < n, (scenario.arrivals i).isRequest .termination = false) →
        responder.Ends clock tick scenario (.exhausted bound)
          (connecting ++ .milestone .connected :: List.replicate n (.call .receive) ++
            [.call .close])) ∧
      ((∀ n, ¬ RequestedAt scenario.arrivals n) →
        (∀ n, ¬ FailsAfter scenario.arrivals bound.toNat n) →
        responder.Endures clock tick scenario scenario.arrivals fun n =>
          connecting ++ .milestone .connected :: List.replicate n (.call .receive)) ∧
      (∀ n, (∀ i < n, scenario.arrivals i ≠ .silence) →
        (∀ i < n, (scenario.arrivals i).isRequest .termination = false) →
        (∀ k ≤ n, ¬ FaultsEnd scenario.arrivals bound.toNat k) →
        responder.Shows clock tick scenario
          (connecting ++ .milestone .connected :: List.replicate n (.call .receive))) := by
  intro responder bound
  have same : responder.threshold = bound := responder.threshold_eq_max
  obtain ⟨connecting, start, up, ends, endures, shows⟩ := responder.course clock tick calm
  have seen : ∀ replies n, (∀ i < n, (scenario.arrivals i).isRequest .termination = false) →
      connecting ++ responder.role.greeting ++ responder.rounds replies scenario.arrivals n =
        connecting ++ .milestone .connected :: List.replicate n (.call .receive) := by
    intro replies n unasked
    rw [Responder.rounds_of_termination rfl replies unasked, List.append_assoc]
    rfl
  rw [← same]
  refine ⟨connecting, fun n => start + responder.turnsBefore scenario.arrivals n + 2, up, ?_, ?_,
    ?_, ?_, ?_⟩
  · exact fun n => Envelope.carries_terminateWorkerReply (valid _) settings.identity.termination
  · intro n requested spared
    have last := ends n _ (Responder.endsWith_terminated rfl requested spared)
    rw [Responder.rounds_of_requested rfl _ requested] at last
    simp only [List.append_assoc, List.cons_append, List.nil_append] at last ⊢
    exact last
  · intro n fails unasked
    obtain ⟨last, rfl, ended⟩ := responder.endsWith_exhausted fails
      (fun i early spared => Responder.exit?_of_termination rfl spared (unasked i early))
    rw [← seen _ (last + 1) unasked]
    exact ends last _ ended
  · intro unrequested unfailing
    -- A request behind a silence is no end: it is never received, and so no round that counts.
    have endless : ∀ n exit, ¬ responder.EndsWith scenario.arrivals n exit :=
      fun n exit ended =>
        (Responder.requested_or_failed rfl ended).elim (unrequested n) (unfailing (n + 1))
    intro fuel
    obtain ⟨running, n, heard, part⟩ := endures endless fuel
    simp only [seen _ n (unasked_of_unrequested unrequested heard)] at part
    exact ⟨running, n, heard, part⟩
  · intro n heard unasked spared
    rw [← seen _ n unasked]
    exact shows n heard fun i early =>
      Responder.exit?_of_termination rfl (spared (i + 1) early) (unasked i early)

/-- A failure and the first of two requests, of which the second one is never received. -/
theorem course_of_termination_past_one_failure :
    let responder :=
      (Settings.mk 0 2 ⟨"worker", 7⟩ .slept).responder .termination (.new "termination")
    ∃ connecting turn,
      responder.Ends .minute 0
        (Scenario.ofArrivals fun n =>
          if n = 0 then .fault .closed
          else .datagram (Envelope.terminateWorkerRequest ⟨0, 0, 0⟩).encode)
        .terminated
        (connecting ++ [.milestone .connected, .call .receive, .call .receive,
          .call (.send (responder.replyBytes (Clock.minute turn))), .milestone .requested,
          .call .close]) := by
  intro responder
  let arrivals : Nat → Arrival := fun n =>
    if n = 0 then .fault .closed
    else .datagram (Envelope.terminateWorkerRequest ⟨0, 0, 0⟩).encode
  have calm : (Scenario.ofArrivals arrivals).Calm := Scenario.calm_ofArrivals fun n => by
    unfold arrivals
    split <;> exact Arrival.noConfusion
  have requested : RequestedAt arrivals 1 := by
    refine ⟨by decide, by decide +kernel, fun i early => ?_⟩
    obtain rfl : i = 0 := Nat.lt_one_iff.mp early
    rfl
  have spared : ∀ k ≤ 1, ¬ FaultsEnd arrivals 2 k := by decide
  obtain ⟨connecting, turn, -, -, ends, -⟩ :=
    (Settings.mk 0 2 ⟨"worker", 7⟩ .slept).course_of_termination (.new "termination")
      Clock.valid_minute 0 calm
  have ended := ends 1 requested spared
  rw [List.append_assoc] at ended
  exact ⟨connecting, turn 1, ended⟩

end Settings

end Heartbeat
