import Heartbeat.Proofs.Responder.Signals
import Heartbeat.Responder.Settings

/-!
What has happened before a signal is raised, and what is left of it afterwards: the signals of a
bus are safe to act on, in whatever order its jobs, its owner and those who wait make their moves.
-/

namespace Heartbeat

namespace Job

variable [Channel C]

/-- The next turn asks the channel whether it is up, and is told that it is. -/
def FindsDialed (job : Job C) : Prop :=
  ∃ phase, job.status = .running phase ∧ Responder.FindsDialed job.channel phase

/-- The next turn receives a datagram that is accepted. -/
def Accepts (clock : Clock) (job : Job C) : Prop :=
  ∃ phase, job.status = .running phase ∧ Responder.Accepts (clock job.turns) job.channel phase

/-- The next turn sends the reply, and the send comes back. -/
def Replies (clock : Clock) (job : Job C) : Prop :=
  ∃ phase, job.status = .running phase ∧
    job.responder.Replies (clock job.turns) job.channel phase

end Job

namespace Bus.Scripted

variable {clock : Role → Clock} {bus later : Scripted} {moves : List Move} {next : Move}
  {said : List Milestone}

/-! What has happened -/

def Joined (clock : Role → Clock) (bus : Scripted) (moves : List Move) : Prop :=
  ∃ first tick last, moves = first ++ .termination tick :: last ∧
    (bus.after clock first).termination.FindsDialed

/-- Of the turns of the termination job, the last one has accepted a datagram. -/
def Taken (clock : Role → Clock) (bus : Scripted) (moves : List Move) : Prop :=
  ∃ first tick last, moves = first ++ .termination tick :: last ∧
    (bus.after clock first).termination.Accepts (clock .termination) ∧
    ∀ tick, .termination tick ∉ last

def Answered (clock : Role → Clock) (bus : Scripted) (moves : List Move) : Prop :=
  ∃ first tick last, moves = first ++ .termination tick :: last ∧
    Taken clock bus first ∧ (bus.after clock first).termination.Replies (clock .termination)

theorem Joined.concat (joined : Joined clock bus moves) (next : Move) :
    Joined clock bus (moves ++ [next]) := by
  obtain ⟨first, tick, last, rfl, finds⟩ := joined
  exact ⟨first, tick, last ++ [next], by simp, finds⟩

theorem Answered.concat (answered : Answered clock bus moves) (next : Move) :
    Answered clock bus (moves ++ [next]) := by
  obtain ⟨first, tick, last, rfl, taken, replies⟩ := answered
  exact ⟨first, tick, last ++ [next], by simp, taken, replies⟩

theorem Taken.concat (taken : Taken clock bus moves) (others : ∀ tick, next ≠ .termination tick) :
    Taken clock bus (moves ++ [next]) := by
  obtain ⟨first, tick, last, rfl, accepts, quiet⟩ := taken
  refine ⟨first, tick, last ++ [next], by simp, accepts, fun tick member => ?_⟩
  obtain there | here := List.mem_append.mp member
  · exact quiet tick there
  · exact others tick (List.mem_singleton.mp here).symm

/-- What the state of a bus tells of the moves that have led to it. -/
structure Past (clock : Role → Clock) (bus : Scripted) (moves : List Move) (now : Scripted) :
    Prop where
  sound : now.Sound
  joined : now.connected.raised → Joined clock bus moves
  taken : ∀ budget, now.termination.status = .running (.replying budget) → Taken clock bus moves
  answered : now.requested.raised → Answered clock bus moves

theorem Past.step (past : Past clock bus moves (bus.after clock moves))
    (evolves : (bus.after clock moves).Evolves clock next later said) :
    Past clock bus (moves ++ [next]) later := by
  have before {latch : Latch} {said running : Bool}
      (up : ((latch.raiseIf said).keepIf running).raised) : latch.raised ∨ said := by
    rwa [Latch.raised_keepIf, Latch.raised_raiseIf, Bool.or_eq_true] at up
  refine ⟨evolves.sound past.sound, fun up => ?_, fun budget replying => ?_, fun up => ?_⟩
  · rw [evolves.connected] at up
    -- A signal that was not raised before is raised by the very turn that was made.
    obtain earlier | tells := before up
    · exact (past.joined earlier).concat next
    · obtain ⟨tick, phase, rfl, running, passage⟩ | ⟨rfl, -⟩ := evolves.passes
      · exact ⟨moves, tick, [], rfl, phase, running, passage.findsDialed tells⟩
      · cases tells
  · obtain ⟨tick, phase, rfl, running, passage⟩ | ⟨-, same | ⟨-, aborted⟩, others⟩ :=
      evolves.passes
    · rw [replying] at passage
      exact ⟨moves, tick, [], rfl, ⟨phase, running, passage.accepts⟩, fun _ => List.not_mem_nil⟩
    · rw [same] at replying
      refine (past.taken budget replying).concat fun tick turn => ?_
      have ended := others tick turn
      rw [replying] at ended
      cases ended
    · rw [aborted] at replying
      cases replying
  · rw [evolves.requested] at up
    obtain earlier | tells := before up
    · exact (past.answered earlier).concat next
    · obtain ⟨tick, phase, rfl, running, passage⟩ | ⟨rfl, -⟩ := evolves.passes
      · obtain ⟨replies, budget, rfl⟩ := passage.replies tells
        exact ⟨moves, tick, [], rfl, past.taken budget running, _, running, replies⟩
      · cases tells

theorem past_of_fresh (fresh : bus.Fresh) (moves : List Move) :
    Past clock bus moves (bus.after clock moves) := by
  have start : Past clock bus [] bus := by
    refine ⟨fresh.sound, fun up => ?_, fun budget replying => ?_, fun up => ?_⟩
    · rw [fresh.connected] at up
      cases up
    · rw [fresh.starting] at replying
      cases replying
    · rw [fresh.requested] at up
      cases up
  refine after_keeps (Past clock bus) start (fun moves next past => ?_) moves
  obtain ⟨said, evolves⟩ := exists_evolves past.sound next
  exact past.step evolves

/-! What is left of it -/

theorem leads_after (clock : Role → Clock) (sound : bus.Sound) (moves : List Move) :
    bus.connected.Leads (bus.after clock moves).connected ∧
      bus.requested.Leads (bus.after clock moves).requested := by
  refine (after_keeps (fun _ later => later.Sound ∧ bus.connected.Leads later.connected ∧
    bus.requested.Leads later.requested) ⟨sound, .refl _, .refl _⟩
    (fun moves next ⟨sound, connected, requested⟩ => ?_) moves).2
  obtain ⟨said, evolves⟩ := exists_evolves sound next
  obtain ⟨connected', requested'⟩ := evolves.leads sound
  exact ⟨evolves.sound sound, connected.trans connected', requested.trans requested'⟩

/-- What can be relied on after these moves, whatever moves follow. -/
structure Safe (clock : Role → Clock) (bus : Scripted) (moves : List Move) : Prop where
  connected_stays : ∀ more, (bus.after clock moves).connected.raised →
    (bus.after clock (moves ++ more)).connected.raised
  requested_stays : ∀ more, (bus.after clock moves).requested.raised →
    (bus.after clock (moves ++ more)).requested.raised
  connected_of_requested : (bus.after clock moves).requested.raised →
    (bus.after clock moves).connected.raised
  joined : (bus.after clock moves).connected.raised → Joined clock bus moves
  answered : (bus.after clock moves).requested.raised → Answered clock bus moves
  wait_eq_true : (bus.after clock moves).wait = some true ↔ (bus.after clock moves).requested.raised
  wait_eq_false : (bus.after clock moves).wait = some false ↔
    (bus.after clock moves).requested.raised = false ∧
      (bus.after clock moves).termination.status.GivesUp
  wait_eq_none : (bus.after clock moves).wait = none ↔
    (bus.after clock moves).requested.raised = false ∧
      (bus.after clock moves).termination.status.isRunning
  wait_stays : ∀ more told, (bus.after clock moves).wait = some told →
    (bus.after clock (moves ++ more)).wait = some told
  spawned : ∀ wait ∈ (bus.after clock moves).waits, ∀ told, wait.result? = some told →
    (bus.after clock moves).wait = some told
  polled : ∀ wait ∈ (bus.after clock (moves ++ [.poll])).waits,
    wait.result? = (bus.after clock moves).wait
  exhausted : ∀ more consecutive,
    (bus.after clock moves).termination.status = .finished (.exhausted consecutive) →
      (bus.after clock (moves ++ more)).requested.raised = false
  terminated : (bus.after clock moves).termination.status = .finished .terminated →
    (bus.after clock moves).requested.raised
  apart : ∀ other,
    (bus.withHealth other).after clock (moves.filter fun next => !next.isOfHealth) =
      (bus.after clock moves).withHealth other

theorem safe_of_fresh (fresh : bus.Fresh) (clock : Role → Clock) (moves : List Move) :
    bus.Safe clock moves := by
  have past : Past clock bus moves (bus.after clock moves) := past_of_fresh fresh moves
  have sound := past.sound
  have leads (more : List Move) := leads_after clock sound more
  simp only [← after_append] at leads
  refine {
    connected_stays := fun more up => (leads more).1.raised up
    requested_stays := fun more up => (leads more).2.raised up
    connected_of_requested := sound.tells.ordered
    joined := past.joined
    answered := past.answered
    wait_eq_true := sound.wait_eq_true
    wait_eq_false := sound.wait_eq_false
    wait_eq_none := sound.wait_eq_none
    wait_stays := fun more told ended => ?_
    spawned := fun wait member told ended => (sound.keeps wait member).result? ended
    polled := fun wait member => ?_
    exhausted := fun more consecutive ended => ?_
    terminated := fun ended => ?_
    apart := fun other => after_withHealth clock fresh.sound.release other moves }
  · exact Latch.wait_eq_over.mp ((leads more).2.wait (Latch.wait_eq_over.mpr ended))
  · rw [after_concat, move, make, release_eq] at member
    obtain ⟨parked, there, rfl⟩ := List.mem_map.mp member
    rw [sound.counted.poll_eq_wait (sound.keeps parked there)]
    rfl
  · have tells := sound.tells
    rw [ended] at tells
    refine Bool.eq_false_iff.mpr fun up => ?_
    obtain before | owned := (leads more).2.writer up
    · rw [tells.2] at before
      cases before
    · rw [sound.requested_owned, ended] at owned
      cases owned
  · have tells := sound.tells
    rw [ended] at tells
    exact tells.2

/-- The signals of a bus are safe after all moves, and these lead wherever its steps lead it and
wherever it is reported on. -/
theorem signals_safe (fresh : bus.Fresh) (clock : Role → Clock) :
    (∀ moves, bus.Safe clock moves) ∧
      (∀ steps more, ∃ moves moves', bus.after clock moves = bus.follow clock steps ∧
        bus.after clock (moves ++ moves') = bus.follow clock (steps ++ more)) ∧
      ∀ steps n report, (bus.run clock steps)[n]? = some report →
        ∃ step, steps[n]? = some step ∧
          ((bus.follow clock (steps.take n)).step clock step).2 = report :=
  ⟨safe_of_fresh fresh clock, exists_moves_of_steps clock fresh.sound.release,
    fun steps _ _ => report_of_run clock bus steps⟩

/-- A request that is answered while the health job crashes, and a wait from before. -/
theorem signals_safe_past_crash :
    let settings : Settings := ⟨0, 2, ⟨"worker", 7⟩, .slept⟩
    let request := (Envelope.terminateWorkerRequest ⟨0, 0, 0⟩).encode
    let bus : Scripted :=
      { health :=
          { responder := settings.responder .health (.new "health")
            channel := { prepared := true, dialed := true, arrivals := [.crash] } }
        termination :=
          { responder := settings.responder .termination (.new "termination")
            channel := { prepared := true, dialed := true, arrivals := [.datagram request] } } }
    let clock : Role → Clock := fun _ turn => ⟨0, turn, 0⟩
    let moves : List Move :=
      [.act .spawnWait, .health 0, .termination 0, .health 0, .termination 0, .termination 0,
        .health 0, .termination 0]
    (bus.after clock moves).health.status = .crashed ∧
      Answered clock bus moves ∧
      ∀ more, (bus.after clock (moves ++ more)).wait = some true := by
  intro settings request bus clock moves
  have fresh : bus.Fresh := ⟨rfl, rfl, rfl, rfl, rfl⟩
  have raised : (bus.after clock moves).requested.raised := by decide +kernel
  have safe := (signals_safe fresh clock).1 moves
  refine ⟨by decide +kernel, safe.answered raised, fun more => ?_⟩
  exact safe.wait_stays more true (safe.wait_eq_true.mpr raised)

end Bus.Scripted

end Heartbeat
