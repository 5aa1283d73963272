import Heartbeat.Proofs.Responder.Refinement
import Heartbeat.Responder.Settings

/-!
What a responder has counted, wherever it comes. Its receives may bring anything in any order: its
channel is any channel, and may become another one between two turns. In its loop the budget holds
the failures since the last success and has room for one more, and the failure that fills it up
ends the loop.
-/

namespace Heartbeat

namespace Reception

def isFailed : Reception → Bool
  | .failed _ => true
  | _ => false

/-- The failures since the last success, or since the start. The latest outcome comes first. -/
def latestFailures (outcomes : List Reception) : Nat :=
  (outcomes.takeWhile isFailed).length

@[simp] theorem latestFailures_failed (fault : ChannelFault) (outcomes : List Reception) :
    latestFailures (.failed fault :: outcomes) = latestFailures outcomes + 1 := rfl

theorem latestFailures_replicate (fault : ChannelFault) (n : Nat) :
    latestFailures (List.replicate n (.failed fault)) = n := by
  induction n with
  | zero => rfl
  | succ n ih => rw [List.replicate_succ, latestFailures_failed, ih]

end Reception

namespace Phase

/-- The budget that a responder holds in its loop. -/
def budget? : Phase → Option Budget
  | .listening budget => some budget
  | .receiving budget => some budget
  | .replying budget => some budget
  | _ => none

/-- What a turn that goes on from this phase has received. -/
def received [Channel C] (channel : C) : Phase → List Reception
  | .receiving _ => [(Channel.receive channel).result]
  | _ => []

end Phase

namespace Responder

open Reception

/-- Where a responder may come, with the outcomes of its receives so far, the latest one first.
Turns are made at any dates and times; between them the channel may become any other one. -/
inductive Reaches [Channel C] (responder : Responder) : List Reception → Phase → C → Prop where
  | start (channel : C) : Reaches responder [] .starting channel
  | turn {channel channel' : C} (reaches : Reaches responder outcomes phase channel)
      (made : responder.step date tick phase channel = ⟨.go next, channel', events⟩) :
      Reaches responder (phase.received channel ++ outcomes) next channel'
  | meanwhile {channel : C} (reaches : Reaches responder outcomes phase channel) (channel' : C) :
      Reaches responder outcomes phase channel'

/-- What a responder has counted of the outcomes, by the phase it is in. -/
def HasCounted (responder : Responder) (outcomes : List Reception) : Phase → Prop
  | .starting => outcomes = []
  | .connecting _ => outcomes = []
  | .closing exit =>
      exit = .terminated ∨
        exit = .exhausted responder.threshold ∧
          latestFailures outcomes = responder.threshold.toNat
  | .listening budget => budget.Counts responder.threshold.toNat (latestFailures outcomes)
  | .receiving budget => budget.Counts responder.threshold.toNat (latestFailures outcomes)
  | .replying budget => budget.Counts responder.threshold.toNat (latestFailures outcomes)

variable [Channel C] {responder : Responder} {outcomes : List Reception} {phase next : Phase}
  {channel : C} {budget : Budget} {date : Calendar.Instant} {tick : Nat}
  {events : List Event}

theorem hasCounted_listen (responder : Responder) : responder.HasCounted [] responder.listen :=
  Budget.counts_new responder.maxFailures

theorem hasCounted_start (goes : (responder.start channel).verdict = .go next) :
    responder.HasCounted [] next := by
  unfold start at goes
  split at goes
  · cases goes
    exact responder.hasCounted_listen
  · cases goes
    rfl

theorem hasCounted_connect {attempt : Attempt}
    (goes : (responder.connect tick attempt channel).verdict = .go next) :
    responder.HasCounted [] next := by
  unfold connect at goes
  simp only at goes
  split at goes
  · cases goes
    rfl
  · cases goes
    exact responder.hasCounted_listen
  · cases goes
  · cases goes

theorem hasCounted_failReceive
    (counts : budget.Counts responder.threshold.toNat (latestFailures outcomes))
    (fault : ChannelFault) :
    responder.HasCounted (.failed fault :: outcomes) (responder.failReceive budget fault).1 := by
  rw [responder.failReceive_phase counts]
  split
  · rename_i last
    exact .inr ⟨rfl, last⟩
  · rename_i more
    exact (counts.recordFailure (Nat.lt_of_le_of_ne counts.below more)).1

theorem hasCounted_accept
    (counts : budget.Counts responder.threshold.toNat (latestFailures outcomes)) (bytes : Bytes) :
    responder.HasCounted (.datagram bytes :: outcomes) (responder.accept date budget bytes).1 := by
  unfold accept
  split
  · exact counts.reset
  · exact counts.reset

theorem hasCounted_receive
    (counts : budget.Counts responder.threshold.toNat (latestFailures outcomes))
    (goes : (responder.receive date budget channel).verdict = .go next) :
    responder.HasCounted ((Channel.receive channel).result :: outcomes) next := by
  unfold receive at goes
  cases result : (Channel.receive channel).result with
  | datagram bytes =>
      simp only [result] at goes
      cases goes
      exact hasCounted_accept counts bytes
  | failed fault =>
      simp only [result] at goes
      cases goes
      exact hasCounted_failReceive counts fault
  | waiting =>
      simp only [result] at goes
      cases goes
  | crashed =>
      simp only [result] at goes
      cases goes

theorem hasCounted_conclude
    (counts : budget.Counts responder.threshold.toNat (latestFailures outcomes)) :
    responder.HasCounted outcomes (responder.conclude budget).1 := by
  unfold conclude
  cases responder.role with
  | health => exact counts
  | termination => exact .inl rfl

theorem hasCounted_reply
    (counts : budget.Counts responder.threshold.toNat (latestFailures outcomes))
    (goes : (responder.reply date budget channel).verdict = .go next) :
    responder.HasCounted outcomes next := by
  unfold reply at goes
  simp only at goes
  split at goes
  · cases goes
    exact hasCounted_conclude counts
  · cases goes
    exact hasCounted_conclude counts
  · cases goes

theorem close_ne_go (exit : Exit) (channel : C) :
    (responder.close exit channel).verdict ≠ .go next := by
  intro goes
  unfold close at goes
  simp only at goes
  split at goes <;> cases goes

/-- What one turn keeps. -/
theorem hasCounted_step (counted : responder.HasCounted outcomes phase)
    (goes : (responder.step date tick phase channel).verdict = .go next) :
    responder.HasCounted (phase.received channel ++ outcomes) next := by
  cases phase with
  | starting =>
      cases counted
      exact hasCounted_start goes
  | connecting attempt =>
      cases counted
      exact hasCounted_connect goes
  | listening budget =>
      cases goes
      exact counted
  | receiving budget => exact hasCounted_receive counted goes
  | replying budget => exact hasCounted_reply counted goes
  | closing exit => exact absurd goes (close_ne_go exit channel)

/-- What any row of turns keeps. -/
theorem Reaches.hasCounted (reaches : responder.Reaches outcomes phase channel) :
    responder.HasCounted outcomes phase := by
  induction reaches with
  | start channel => rfl
  | turn reaches made ih => exact hasCounted_step ih (congrArg Turn.verdict made)
  | meanwhile reaches channel' ih => exact ih

/-! Runs -/

/-- A run leads from what is reached to what is reached, for as long as it goes on. -/
theorem Reaches.run (reaches : responder.Reaches outcomes phase channel) (turns : Nat)
    (horizon : Option Nat) (fuel : Nat) (clock : Clock) (tick : Nat) :
    let progress := (Job.mk responder channel (.running phase) turns).run horizon fuel clock tick
    ∀ later, progress.job.status = .running later →
      ∃ more, responder.Reaches (more ++ outcomes) later progress.job.channel := by
  let holds (_ : List Event) (job : Job C) : Prop :=
    job.responder = responder ∧ ∀ later, job.status = .running later →
      ∃ more, responder.Reaches (more ++ outcomes) later job.channel
  intro progress
  refine (?_ : holds progress.events progress.job).2
  refine Job.run_keeps holds ?_ ?_ horizon fuel tick
  · rintro events tick ⟨self, channel, status, turns⟩ running ⟨same, before⟩
    obtain rfl : responder = self := same.symm
    obtain ⟨phase, rfl⟩ := Status.exists_phase running
    obtain ⟨more, reaches⟩ := before phase rfl
    refine ⟨rfl, fun later goesOn => ?_⟩
    simp only [Job.turn] at goesOn ⊢
    cases made : responder.step (clock turns) tick phase channel with
    | mk verdict channel' events' =>
        rw [made] at goesOn
        cases verdict with
        | go next =>
            cases goesOn
            refine ⟨phase.received channel ++ more, ?_⟩
            rw [List.append_assoc]
            exact reaches.turn made
        | waiting =>
            -- Whatever waiting makes of the channel, it might have become between two turns.
            cases goesOn
            exact ⟨more, reaches.meanwhile channel'⟩
        | finished exit => cases goesOn
        | crashed => cases goesOn
  · refine ⟨rfl, fun later running => ?_⟩
    cases running
    exact ⟨[], reaches⟩

/-! Calls for a datagram -/

theorem call_mem_outward {call : Call} (called : .call call ∈ events) :
    .call call ∈ outward events :=
  List.mem_filter.mpr ⟨called, rfl⟩

theorem call_mem_ofAnswer {call made : Call} {notices : List Notice} :
    .call call ∈ Event.ofAnswer made notices ↔ call = made := by
  simp [Event.ofAnswer]

theorem call_not_mem_announce (call : Call) : .call call ∉ responder.announce := by
  intro called
  have seen := call_mem_outward called
  rw [outward_announce] at seen
  cases role : responder.role <;> simp [role, Role.greeting] at seen

theorem receive_not_called_connect (attempt : Attempt) (channel : C) :
    .call .receive ∉ (responder.connect tick attempt channel).events := by
  have quiet : .call .receive ∉ (responder.connector.step tick attempt channel).events :=
    fun called => Bool.false_ne_true (responder.connector.step_events _ _ _ _ called rfl)
  unfold connect
  simp only
  split
  · exact quiet
  · rw [List.mem_append, not_or]
    exact ⟨quiet, call_not_mem_announce .receive⟩
  · exact quiet
  · exact quiet

theorem receive_not_called_reply (budget : Budget) (channel : C) :
    .call .receive ∉ (responder.reply date budget channel).events := by
  have silent : .call .receive ∉ (responder.conclude budget).2 := by
    unfold conclude
    cases responder.role <;> simp
  unfold reply
  simp only
  split <;> simp [call_mem_ofAnswer, silent]

theorem receive_not_called_close (exit : Exit) (channel : C) :
    .call .receive ∉ (responder.close exit channel).events := by
  unfold close
  simp only
  split <;> simp [call_mem_ofAnswer]

/-- A responder calls for a datagram at the head of its loop, and nowhere else. -/
theorem listening_of_call
    (called : .call .receive ∈ (responder.step date tick phase channel).events) :
    ∃ budget, phase = .listening budget := by
  cases phase with
  | starting =>
      simp only [step, start] at called
      split at called
      · exact absurd called (call_not_mem_announce .receive)
      · exact absurd called List.not_mem_nil
  | connecting attempt => exact absurd called (receive_not_called_connect attempt channel)
  | listening budget => exact ⟨budget, rfl⟩
  | receiving budget =>
      have seen := call_mem_outward called
      rw [step, outward_receive] at seen
      exact absurd seen List.not_mem_nil
  | replying budget => exact absurd called (receive_not_called_reply budget channel)
  | closing exit => exact absurd called (receive_not_called_close exit channel)

/-! Recorded failures -/

theorem Reaches.hasRoom (reaches : responder.Reaches outcomes phase channel)
    (holds : phase.budget? = some budget) :
    budget.HasRoom responder.threshold (latestFailures outcomes) := by
  have counted := reaches.hasCounted
  cases phase with
  | listening _ =>
      cases holds
      exact counted.hasRoom
  | receiving _ =>
      cases holds
      exact counted.hasRoom
  | replying _ =>
      cases holds
      exact counted.hasRoom
  | _ => cases holds

theorem Reaches.step_of_failed (reaches : responder.Reaches outcomes (.receiving budget) channel)
    {fault : ChannelFault} (failed : (Channel.receive channel).result = .failed fault)
    (date : Calendar.Instant) (tick : Nat) :
    (responder.step date tick (.receiving budget) channel).verdict =
      .go (if latestFailures outcomes + 1 = responder.threshold.toNat
        then .closing (.exhausted responder.threshold) else .listening budget.recordFailure) := by
  rw [← responder.failReceive_phase reaches.hasCounted fault]
  simp only [step, receive, failed]

theorem Reaches.of_listening (reaches : responder.Reaches outcomes (.listening budget) channel) :
    responder.Reaches outcomes (.receiving budget) channel := by
  have called : responder.step ⟨0, 0, 0⟩ 0 (.listening budget) channel =
      ⟨.go (.receiving budget), channel, [.call .receive]⟩ := rfl
  exact reaches.turn called

end Responder

/-- A channel that is up, and whose peer has hung up. -/
def Script.hungUp : Script where
  prepared := true
  dialed := true

/-- Any number of failures below the bound may come in a row. -/
theorem Responder.exists_reaches_failures (responder : Responder) {n : Nat}
    (few : n < responder.threshold.toNat) :
    ∃ budget, responder.Reaches (List.replicate n (.failed .closed)) (.receiving budget)
      Script.hungUp := by
  induction n with
  | zero =>
      have begun : responder.step ⟨0, 0, 0⟩ 0 .starting Script.hungUp =
          ⟨.go responder.listen, Script.hungUp, responder.announce⟩ := rfl
      exact ⟨_, ((Reaches.start Script.hungUp).turn begun).of_listening⟩
  | succ n ih =>
      obtain ⟨budget, reaches⟩ := ih (Nat.lt_of_succ_lt few)
      have failed : (Channel.receive Script.hungUp).result = .failed .closed := rfl
      have goesOn := reaches.step_of_failed failed ⟨0, 0, 0⟩ 0
      rw [Reception.latestFailures_replicate, if_neg (Nat.ne_of_lt few)] at goesOn
      cases made : responder.step ⟨0, 0, 0⟩ 0 (.receiving budget) Script.hungUp with
      | mk verdict channel events =>
          rw [made] at goesOn
          obtain rfl : verdict = _ := goesOn
          exact ⟨_, ((reaches.turn made).meanwhile Script.hungUp).of_listening⟩

namespace Settings

open Reception

/-- A responder has counted its failures, wherever it comes and whatever its receives have brought.
It calls for a datagram at the head of its loop only. In the loop its budget has counted the
failures since the last success and has room for one more. If that one comes it is recorded; it
ends the loop at once if it meets the bound, and leads back to the head otherwise. So one who has
given up has counted up to the bound, and no further. All this holds all along every run. -/
theorem failures_are_counted [Channel C] (settings : Settings) (role : Role) (endpoint : Endpoint)
    {outcomes : List Reception} {phase : Phase} {channel : C}
    (reaches : (settings.responder role endpoint).Reaches outcomes phase channel) :
    let responder := settings.responder role endpoint
    let bound := max 1 settings.maxFailures
    let failures := latestFailures outcomes
    (∀ date tick, .call .receive ∈ (responder.step date tick phase channel).events →
      ∃ budget, phase = .listening budget) ∧
    (∀ budget, phase.budget? = some budget → budget.HasRoom bound failures) ∧
    (∀ budget fault date tick, phase = .receiving budget →
      (Channel.receive channel).result = .failed fault →
      (responder.step date tick phase channel).verdict =
        .go (if failures + 1 = bound.toNat then .closing (.exhausted bound)
          else .listening budget.recordFailure)) ∧
    (∀ consecutive, phase = .closing (.exhausted consecutive) →
      consecutive = bound ∧ failures = bound.toNat) ∧
    ∀ turns horizon fuel clock tick later,
      let progress := (Job.mk responder channel (.running phase) turns).run horizon fuel clock tick
      progress.job.status = .running later →
        ∃ more, responder.Reaches (more ++ outcomes) later progress.job.channel := by
  intro responder bound failures
  have same : responder.threshold = bound := responder.threshold_eq_max
  rw [← same]
  refine ⟨?calls, ?counts, ?records, ?gaveUp, ?runs⟩
  case calls => exact fun date tick called => Responder.listening_of_call called
  case counts => exact fun budget holds => reaches.hasRoom holds
  case records =>
    rintro budget fault date tick rfl failed
    exact reaches.step_of_failed failed date tick
  case gaveUp =>
    rintro consecutive rfl
    rcases reaches.hasCounted with terminated | ⟨exhausted, full⟩
    · cases terminated
    · exact ⟨Exit.exhausted.inj exhausted, full⟩
  case runs =>
    exact fun turns horizon fuel clock tick later =>
      reaches.run turns horizon fuel clock tick later

/-- With the widest bound of all, one failure before it is met: the count is then the largest
number there is. -/
theorem failures_are_counted_to_largest :
    let settings : Settings := ⟨0, 4294967295, ⟨"worker", 7⟩, .slept⟩
    let responder := settings.responder .termination (.new "a.sock")
    ∃ budget,
      responder.Reaches (List.replicate 4294967294 (.failed .closed)) (.receiving budget)
        Script.hungUp ∧
      budget.consecutive.toNat = 4294967294 ∧ budget.isExhausted = false ∧
      budget.recordFailure.consecutive.toNat = 4294967295 ∧
      budget.recordFailure.isExhausted = true ∧
      (responder.step ⟨0, 0, 0⟩ 0 (.receiving budget) Script.hungUp).verdict =
        .go (.closing (.exhausted 4294967295)) := by
  intro settings responder
  have bound : responder.threshold = 4294967295 := rfl
  have few : 4294967294 < responder.threshold.toNat := by rw [bound]; decide
  obtain ⟨budget, reaches⟩ := responder.exists_reaches_failures few
  obtain ⟨-, counts, records, -⟩ :=
    settings.failures_are_counted .termination (.new "a.sock") reaches
  have room := counts budget rfl
  have last := records budget .closed ⟨0, 0, 0⟩ 0 rfl rfl
  rw [latestFailures_replicate] at room last
  have widest : max 1 settings.maxFailures = 4294967295 := by decide
  rw [widest] at room last
  refine ⟨budget, reaches, room.consecutive, room.left, ?_, room.exhausts.mpr rfl, ?_⟩
  · rw [room.uncut]
    exact room.sum
  · exact last.trans (congrArg Verdict.go (if_pos rfl))

end Settings

end Heartbeat
