import Heartbeat.Proofs.Message.Stability
import Heartbeat.Proofs.Responder.Budget
import Heartbeat.Proofs.Responder.Connecting
import Heartbeat.Responder.Job

/-!
The loop in which a responder receives. One round is a receive and what is done about it: the
budget then holds the failures since the last success, or the loop has ended. From this come all
rounds up to the first one that ends the loop.
-/

namespace Heartbeat

/-- Whether an arrival is a datagram that a responder of this role answers. When it is read makes
no difference to that. -/
def Arrival.isRequest (role : Role) : Arrival → Bool
  | .datagram bytes => (Envelope.decodeExpecting ⟨0, 0, 0⟩ role.request bytes).isOk
  | _ => false

theorem Arrival.isRequest_datagram (date : Calendar.Instant) (role : Role) (bytes : Bytes) :
    (datagram bytes).isRequest role = (Envelope.decodeExpecting date role.request bytes).isOk :=
  Envelope.isOk_decodeExpecting ..

/-- What others see of the end of a round in which a reply was sent. -/
def Role.conclusion : Role → List Event
  | .health => []
  | .termination => [.milestone .requested]

namespace Responder

/-- So many failures in a row are too many. -/
def threshold (responder : Responder) : UInt32 :=
  (Budget.new responder.maxFailures).max

def replyBytes (responder : Responder) (date : Calendar.Instant) : Bytes :=
  (responder.role.reply responder.identity date).encode

/-- What others see of a round, if this is the reply. -/
def round (responder : Responder) (reply : Bytes) (arrival : Arrival) : List Event :=
  .call .receive ::
    if arrival.isRequest responder.role then
      .call (.send reply) :: responder.role.conclusion
    else []

/-- The turns of a round: one that calls, one that receives, and one that replies. -/
def turnsOf (responder : Responder) (arrival : Arrival) : Nat :=
  if arrival.isRequest responder.role then 3 else 2

/-- The turns of all rounds before round `n`. -/
def turnsBefore (responder : Responder) (arrivals : Nat → Arrival) : Nat → Nat
  | 0 => 0
  | n + 1 => turnsBefore responder arrivals n + responder.turnsOf (arrivals n)

def rounds (responder : Responder) (replies : Nat → Bytes) (arrivals : Nat → Arrival) (n : Nat) :
    List Event :=
  (List.range n).flatMap fun i => responder.round (replies i) (arrivals i)

/-- The reply of each round, when the first round begins with this turn. -/
def replies (responder : Responder) (clock : Clock) (turn : Nat) (arrivals : Nat → Arrival)
    (n : Nat) : Bytes :=
  responder.replyBytes (clock (turn + responder.turnsBefore arrivals n + 2))

/-- How the loop ends with round `n`, if it does. -/
def exit? (responder : Responder) (arrivals : Nat → Arrival) (n : Nat) : Option Exit :=
  if (arrivals n).isFault then
    if responder.threshold.toNat ≤ failuresInRow arrivals (n + 1) then
      some (.exhausted responder.threshold)
    else none
  else if (arrivals n).isRequest responder.role then
    match responder.role with
    | .health => none
    | .termination => some .terminated
  else none

section

variable (responder : Responder) (clock : Clock)

/-- A row of turns of a responder that has all the time it wants. -/
abbrev Leads (n : Nat) (start : Standing Scenario Post) (events : List Event)
    (finish : Standing Scenario Post) : Prop :=
  Goes (responder.turn clock) wake? none n start events finish

/-- Where a responder stands before round `n`. -/
structure Listens (scenario : Scenario) (n : Nat) (budget : Budget) (after : Scenario) : Prop where
  counts : budget.Counts responder.threshold.toNat (failuresInRow scenario.arrivals n)
  arrivals : ∀ i, after.arrivals i = scenario.arrivals (n + i)
  calm : after.Calm

/-- Where a responder stands after a round that began in `n` and did, or did not, end the loop. -/
def Finishes (scenario : Scenario) (n : Nat) (phase : Phase) (after : Scenario) : Prop :=
  match responder.exit? scenario.arrivals n with
  | some exit => phase = .closing exit ∧ after.Calm
  | none => ∃ budget, phase = .listening budget ∧ responder.Listens scenario (n + 1) budget after

/-- Round `n` is made as a whole. The date of its reply is read in the last one of its turns. -/
def MakesRound (scenario : Scenario) (n tick turn : Nat) (budget : Budget) (channel : Scenario) :
    Prop :=
  ∃ events phase after,
    responder.Leads clock (responder.turnsOf (scenario.arrivals n))
        ⟨tick, ⟨.listening budget, turn⟩, channel⟩ events
        ⟨tick, ⟨phase, turn + responder.turnsOf (scenario.arrivals n)⟩, after⟩ ∧
      outward events =
        responder.round (responder.replyBytes (clock (turn + 2))) (scenario.arrivals n) ∧
      responder.Finishes scenario n phase after

end

end Responder

namespace Scenario

theorem Calm.hear {scenario : Scenario} (calm : scenario.Calm) : scenario.hear.Calm :=
  ⟨calm.preparing, calm.dialing, fun n => calm.arrivals (n + 1), calm.sending, calm.closing⟩

theorem Calm.of_send {scenario : Scenario} (calm : scenario.Calm) : scenario.send.state.Calm :=
  ⟨calm.preparing, calm.dialing, calm.arrivals, fun n => calm.sending (n + 1), calm.closing⟩

end Scenario

namespace Responder

variable (responder : Responder) (clock : Clock)

theorem Listens.arrivals_hear {responder : Responder} {scenario channel : Scenario} {n : Nat}
    {budget : Budget} (listens : responder.Listens scenario n budget channel) (i : Nat) :
    channel.hear.arrivals i = scenario.arrivals (n + 1 + i) := by
  rw [Nat.add_assoc, Nat.add_comm 1 i]
  exact listens.arrivals (i + 1)

theorem leads_to_receiving (tick turn : Nat) (budget : Budget) (scenario : Scenario) :
    responder.Leads clock 1 ⟨tick, ⟨.listening budget, turn⟩, scenario⟩ [.call .receive]
      ⟨tick, ⟨.receiving budget, turn + 1⟩, scenario⟩ :=
  goes_of_step rfl

theorem outward_conclude (budget : Budget) :
    outward (responder.conclude budget).2 = responder.role.conclusion := by
  unfold conclude
  cases responder.role <;> rfl

/-- Whether or not a reply gets through, what comes after it is the same. -/
theorem leads_of_replying (tick turn : Nat) (budget : Budget) {scenario : Scenario}
    (calm : scenario.Calm) :
    ∃ events,
      responder.Leads clock 1 ⟨tick, ⟨.replying budget, turn⟩, scenario⟩ events
          ⟨tick, ⟨(responder.conclude budget).1, turn + 1⟩, scenario.send.state⟩ ∧
        outward events =
          .call (.send (responder.replyBytes (clock turn))) :: responder.role.conclusion := by
  rcases Cue.reaction_of_ne_crash (calm.sending 0) with done | ⟨why, -, failed⟩
  · have result : scenario.send.result = .done := done
    refine ⟨_, goes_of_step (by simp only [step, reply, Channel.send, result]; rfl), ?_⟩
    rw [outward_append, outward_conclude]
    rfl
  · have result : scenario.send.result = .failed why := failed
    refine ⟨_, goes_of_step (by simp only [step, reply, Channel.send, result]; rfl), ?_⟩
    rw [outward_append, outward_notice, outward_conclude]
    rfl

theorem round_of_discarded {scenario channel : Scenario} {n : Nat} {budget : Budget}
    (listens : responder.Listens scenario n budget channel) (tick turn : Nat) {bytes : Bytes}
    (arrival : scenario.arrivals n = .datagram bytes) {fault : CodecFault}
    (refused : Envelope.decodeExpecting (clock (turn + 1)) responder.role.request bytes =
      .error fault) :
    responder.MakesRound clock scenario n tick turn budget channel := by
  have notRequest : (scenario.arrivals n).isRequest responder.role = false := by
    rw [arrival, Arrival.isRequest_datagram (clock (turn + 1)), refused]
    rfl
  have turns : responder.turnsOf (scenario.arrivals n) = 2 := by
    rw [turnsOf, notRequest]
    rfl
  have heard : channel.arrivals 0 = .datagram bytes := (listens.arrivals 0).trans arrival
  have received : responder.step (clock (turn + 1)) tick (.receiving budget) channel =
      ⟨.go (.listening budget.reset), channel.hear,
        [.notice (responder.role.discarding fault)]⟩ := by
    have answer := Scenario.receive_of_heard heard Arrival.noConfusion
    simp only [step, receive, Channel.receive, answer, Arrival.reception, accept, refused]
    rfl
  rw [MakesRound, turns]
  refine ⟨_, _, _, (responder.leads_to_receiving clock tick turn budget channel).trans
    (goes_of_step received), ?_, ?_⟩
  · rw [round, notRequest]
    rfl
  · have noExit : responder.exit? scenario.arrivals n = none := by
      rw [exit?, notRequest, arrival]
      rfl
    rw [Finishes, noExit]
    refine ⟨budget.reset, rfl, ?_, listens.arrivals_hear, listens.calm.hear⟩
    rw [failuresInRow, arrival]
    exact listens.counts.reset

/-- A request is answered at once. Only the termination responder ends with it. -/
theorem round_of_request {scenario channel : Scenario} {n : Nat} {budget : Budget}
    (listens : responder.Listens scenario n budget channel) (tick turn : Nat) {bytes : Bytes}
    (arrival : scenario.arrivals n = .datagram bytes) {envelope : Envelope}
    (read : Envelope.decodeExpecting (clock (turn + 1)) responder.role.request bytes =
      .ok envelope) :
    responder.MakesRound clock scenario n tick turn budget channel := by
  have request : (scenario.arrivals n).isRequest responder.role = true := by
    rw [arrival, Arrival.isRequest_datagram (clock (turn + 1)), read]
    rfl
  have turns : responder.turnsOf (scenario.arrivals n) = 3 := by
    rw [turnsOf, request]
    rfl
  have heard : channel.arrivals 0 = .datagram bytes := (listens.arrivals 0).trans arrival
  have received : responder.step (clock (turn + 1)) tick (.receiving budget) channel =
      ⟨.go (.replying budget.reset), channel.hear,
        [.notice (responder.role.accepted envelope)]⟩ := by
    have answer := Scenario.receive_of_heard heard Arrival.noConfusion
    simp only [step, receive, Channel.receive, answer, Arrival.reception, accept, read]
    rfl
  obtain ⟨events, replied, seen⟩ :=
    responder.leads_of_replying clock tick (turn + 2) budget.reset listens.calm.hear
  rw [MakesRound, turns]
  refine ⟨_, _, _, ((responder.leads_to_receiving clock tick turn budget channel).trans
    (goes_of_step received)).trans replied, ?_, ?_⟩
  · rw [round, request, outward_append, seen]
    rfl
  · have exits : responder.exit? scenario.arrivals n =
        match responder.role with
        | .health => none
        | .termination => some .terminated := by
      simp only [exit?, request, if_true]
      simp only [arrival, Arrival.isFault, Bool.false_eq_true, if_false]
    rw [Finishes, exits]
    unfold conclude
    cases responder.role with
    | health =>
        refine ⟨budget.reset, rfl, ?_, listens.arrivals_hear, listens.calm.hear.of_send⟩
        rw [failuresInRow, arrival]
        exact listens.counts.reset
    | termination => exact ⟨rfl, listens.calm.hear.of_send⟩

/-- The failure that meets the bound ends the loop, and no other one does. -/
theorem failReceive_phase {budget : Budget} {n : Nat}
    (counts : budget.Counts responder.threshold.toNat n) (fault : ChannelFault) :
    (responder.failReceive budget fault).1 =
      if n + 1 = responder.threshold.toNat then .closing (.exhausted responder.threshold)
      else .listening budget.recordFailure := by
  have bound : budget.max = responder.threshold := UInt32.toNat_inj.mp counts.max
  by_cases last : n + 1 = responder.threshold.toNat
  · obtain ⟨exhausted, full⟩ := counts.exhausted (Nat.le_of_eq last.symm)
    simp only [failReceive, exhausted, if_pos last, if_true, full, bound]
  · obtain ⟨-, spare⟩ := counts.recordFailure (Nat.lt_of_le_of_ne counts.below last)
    simp only [failReceive, spare, if_neg last, Bool.false_eq_true, if_false]

/-- A failed receive costs one failure. The one that makes them too many ends the loop. -/
theorem round_of_fault {scenario channel : Scenario} {n : Nat} {budget : Budget}
    (listens : responder.Listens scenario n budget channel) (tick turn : Nat) {fault : ChannelFault}
    (arrival : scenario.arrivals n = .fault fault) :
    responder.MakesRound clock scenario n tick turn budget channel := by
  have turns : responder.turnsOf (scenario.arrivals n) = 2 := by
    rw [turnsOf, arrival]
    rfl
  have heard : channel.arrivals 0 = .fault fault := (listens.arrivals 0).trans arrival
  have failures : failuresInRow scenario.arrivals (n + 1) =
      failuresInRow scenario.arrivals n + 1 := by
    rw [failuresInRow, arrival]
    rfl
  have received : responder.step (clock (turn + 1)) tick (.receiving budget) channel =
      ⟨.go (responder.failReceive budget fault).1, channel.hear,
        (responder.failReceive budget fault).2⟩ := by
    have answer := Scenario.receive_of_heard heard Arrival.noConfusion
    simp only [step, receive, Channel.receive, answer, Arrival.reception]
    rfl
  rw [MakesRound, turns]
  refine ⟨_, _, _, (responder.leads_to_receiving clock tick turn budget channel).trans
    (goes_of_step received), ?_, ?_⟩
  · have silent : outward (responder.failReceive budget fault).2 = [] := by
      unfold failReceive
      simp only
      split <;> rfl
    rw [round, arrival, outward_append, silent]
    rfl
  · by_cases last : responder.threshold.toNat ≤ failuresInRow scenario.arrivals (n + 1)
    · have exits : responder.exit? scenario.arrivals n =
          some (.exhausted responder.threshold) := by
        rw [exit?, if_pos last, arrival]
        rfl
      rw [failures] at last
      have full := Nat.le_antisymm listens.counts.below last
      rw [Finishes, exits]
      refine ⟨?_, listens.calm.hear⟩
      rw [responder.failReceive_phase listens.counts, if_pos full]
    · have exits : responder.exit? scenario.arrivals n = none := by
        rw [exit?, if_neg last, arrival]
        rfl
      rw [failures, Nat.not_le] at last
      rw [Finishes, exits]
      refine ⟨budget.recordFailure, ?_, ?_, listens.arrivals_hear, listens.calm.hear⟩
      · rw [responder.failReceive_phase listens.counts, if_neg (Nat.ne_of_lt last)]
      · rw [failures]
        exact (listens.counts.recordFailure last).1

theorem leads_of_round {scenario channel : Scenario} {n : Nat} {budget : Budget}
    (listens : responder.Listens scenario n budget channel) (tick turn : Nat)
    (heard : scenario.arrivals n ≠ .silence) :
    responder.MakesRound clock scenario n tick turn budget channel := by
  cases arrival : scenario.arrivals n with
  | datagram bytes =>
      cases read : Envelope.decodeExpecting (clock (turn + 1)) responder.role.request bytes with
      | ok envelope => exact responder.round_of_request clock listens tick turn arrival read
      | error fault => exact responder.round_of_discarded clock listens tick turn arrival read
  | fault fault => exact responder.round_of_fault clock listens tick turn arrival
  | silence => exact absurd arrival heard
  | crash =>
      exact absurd ((listens.arrivals 0).trans arrival) (listens.calm.arrivals 0)

theorem turnsBefore_lt_succ (arrivals : Nat → Arrival) (n : Nat) :
    responder.turnsBefore arrivals n < responder.turnsBefore arrivals (n + 1) := by
  refine Nat.lt_add_of_pos_right ?_
  unfold turnsOf
  split <;> decide

theorem le_turnsBefore (arrivals : Nat → Arrival) (n : Nat) :
    n ≤ responder.turnsBefore arrivals n := by
  induction n with
  | zero => exact Nat.zero_le _
  | succ n ih => exact Nat.lt_of_le_of_lt ih (responder.turnsBefore_lt_succ arrivals n)

theorem rounds_succ (replies : Nat → Bytes) (arrivals : Nat → Arrival) (n : Nat) :
    responder.rounds replies arrivals (n + 1) =
      responder.rounds replies arrivals n ++ responder.round (replies n) (arrivals n) := by
  rw [rounds, List.range_succ, List.flatMap_append, List.flatMap_singleton]
  rfl

/-- All rounds before one that the loop gets to. -/
theorem leads_of_rounds {scenario channel : Scenario} {budget : Budget}
    (listens : responder.Listens scenario 0 budget channel) (tick turn : Nat) {n : Nat}
    (heard : ∀ i < n, scenario.arrivals i ≠ .silence)
    (goesOn : ∀ i < n, responder.exit? scenario.arrivals i = none) :
    ∃ events budget' after,
      responder.Leads clock (responder.turnsBefore scenario.arrivals n)
          ⟨tick, ⟨.listening budget, turn⟩, channel⟩ events
          ⟨tick, ⟨.listening budget', turn + responder.turnsBefore scenario.arrivals n⟩, after⟩ ∧
        outward events =
          responder.rounds (responder.replies clock turn scenario.arrivals) scenario.arrivals n ∧
        responder.Listens scenario n budget' after := by
  induction n with
  | zero => exact ⟨[], budget, channel, .here, rfl, listens⟩
  | succ n ih =>
      obtain ⟨events, budget', after, rounds, seen, listens'⟩ :=
        ih (fun i early => heard i (Nat.lt_succ_of_lt early))
          (fun i early => goesOn i (Nat.lt_succ_of_lt early))
      obtain ⟨more, phase, last, round, seen', finishes⟩ :=
        responder.leads_of_round clock listens' tick
          (turn + responder.turnsBefore scenario.arrivals n) (heard n (Nat.lt_succ_self n))
      rw [Finishes, goesOn n (Nat.lt_succ_self n)] at finishes
      obtain ⟨budget'', rfl, listens''⟩ := finishes
      rw [Nat.add_assoc] at round
      refine ⟨_, budget'', last, rounds.trans round, ?_, listens''⟩
      rw [outward_append, seen, seen', rounds_succ]
      rfl

theorem leads_to_exit {scenario channel : Scenario} {budget : Budget}
    (listens : responder.Listens scenario 0 budget channel) (tick turn : Nat) {n : Nat}
    (heard : ∀ i ≤ n, scenario.arrivals i ≠ .silence)
    (goesOn : ∀ i < n, responder.exit? scenario.arrivals i = none)
    (exits : responder.exit? scenario.arrivals n = some exit) :
    ∃ events after,
      responder.Leads clock (responder.turnsBefore scenario.arrivals (n + 1))
          ⟨tick, ⟨.listening budget, turn⟩, channel⟩ events
          ⟨tick, ⟨.closing exit, turn + responder.turnsBefore scenario.arrivals (n + 1)⟩, after⟩ ∧
        outward events =
          responder.rounds (responder.replies clock turn scenario.arrivals) scenario.arrivals
            (n + 1) ∧
        after.Calm := by
  obtain ⟨events, budget', middle, rounds, seen, listens'⟩ :=
    responder.leads_of_rounds clock listens tick turn
      (fun i early => heard i (Nat.le_of_lt early)) goesOn
  obtain ⟨more, phase, after, round, seen', finishes⟩ :=
    responder.leads_of_round clock listens' tick
      (turn + responder.turnsBefore scenario.arrivals n) (heard n (Nat.le_refl n))
  rw [Finishes, exits] at finishes
  obtain ⟨rfl, calm⟩ := finishes
  rw [Nat.add_assoc] at round
  refine ⟨_, after, rounds.trans round, ?_, calm⟩
  rw [outward_append, seen, seen', rounds_succ]
  rfl

theorem step_of_silence {scenario channel : Scenario} {n : Nat} {budget : Budget}
    (listens : responder.Listens scenario n budget channel) (date : Calendar.Instant) (tick : Nat)
    (silence : scenario.arrivals n = .silence) :
    responder.step date tick (.receiving budget) channel = ⟨.waiting, channel, []⟩ := by
  have quiet : channel.arrivals 0 = .silence := (listens.arrivals 0).trans silence
  have answer : channel.receive = ⟨.waiting, channel, []⟩ := if_pos quiet
  simp only [step, receive, Channel.receive, answer]
  rfl

/-- Whatever comes of closing the channel, the responder has ended. -/
theorem step_of_closing (date : Calendar.Instant) (tick : Nat) (exit : Exit) {scenario : Scenario}
    (calm : scenario.Calm) :
    ∃ events, responder.step date tick (.closing exit) scenario =
        ⟨.finished exit, scenario.close.state, events⟩ ∧ outward events = [.call .close] := by
  rcases Cue.reaction_of_ne_crash (calm.closing 0) with done | ⟨why, -, failed⟩
  · have result : scenario.close.result = .done := done
    refine ⟨_, by simp only [step, close, Channel.close, result]; rfl, rfl⟩
  · have result : scenario.close.result = .failed why := failed
    refine ⟨_, by simp only [step, close, Channel.close, result]; rfl, rfl⟩

end Responder

end Heartbeat
