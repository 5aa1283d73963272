import Heartbeat.Proofs.Responder.Independence
import Heartbeat.Proofs.Responder.Safety

/-!
Taking a bus down. Once the health job was told to stop and the termination job is through, or was
told to stop as well, both have ended or the last close is all that is left.
-/

namespace Heartbeat

/-! The end of a job -/

/-- From the status of a job to its last one: a job that has ended stays as it is, and one that
is closing ends with the close. -/
inductive Status.Concludes : Status → Status → Prop
  | ended (ended : status.isRunning = false) : Concludes status status
  | closed (exit : Exit) : Concludes (.running (.closing exit)) (.finished exit)
  | crashed (exit : Exit) : Concludes (.running (.closing exit)) .crashed

namespace Status.Concludes

variable {status last : Status}

theorem isEnded (concludes : status.Concludes last) : last.isRunning = false := by
  cases concludes with
  | ended ended => exact ended
  | closed exit => rfl
  | crashed exit => rfl

/-- A job that has sent its reply ends as terminated, unless it crashes in its close. -/
theorem terminated (concludes : status.Concludes last) {connected : Bool}
    (tells : status.Tells connected true) (calm : last ≠ .crashed) (unstopped : status ≠ .aborted) :
    last = .finished .terminated := by
  cases concludes with
  | ended ended =>
      cases status with
      | running phase => cases ended
      | finished exit =>
          obtain rfl := of_decide_eq_true tells.2.symm
          rfl
      | crashed => exact absurd rfl calm
      | aborted => exact absurd rfl unstopped
  | closed exit =>
      cases exit with
      | terminated => rfl
      | exhausted consecutive => cases tells.2
  | crashed exit => exact absurd rfl calm

theorem unterminated (concludes : status.Concludes last) (givesUp : status.GivesUp) :
    last.exit? ≠ some .terminated := by
  cases concludes with
  | ended ended => obtain rfl | rfl | ⟨consecutive, rfl⟩ := givesUp <;> nofun
  | closed exit => obtain crashed | aborted | ⟨consecutive, finished⟩ := givesUp <;> contradiction
  | crashed exit => exact nofun

end Status.Concludes

namespace Job

variable [Channel C] {job : Job C}

theorem status_of_closing (responder : Responder) (date : Calendar.Instant) (tick : Nat)
    (channel : C) (exit : Exit) :
    (responder.step date tick (.closing exit) channel).verdict = .finished exit ∨
      (responder.step date tick (.closing exit) channel).verdict = .crashed := by
  simp only [Responder.step, Responder.close]
  split
  · exact .inl rfl
  · exact .inl rfl
  · exact .inr rfl

/-- What has to be known of a job for the rest of it to be a single turn at most. -/
def Through (job : Job C) : Prop :=
  job.status.isRunning = false ∨ ∃ exit, job.status = .running (.closing exit)

theorem Through.turn (through : job.Through) (clock : Clock) (tick : Nat) :
    job.status.Concludes (job.turn clock tick).1.status := by
  obtain ended | ⟨exit, closing⟩ := through
  · rw [turn_of_ended ended]
    exact .ended ended
  · rw [turn_of_running closing, closing]
    obtain done | crashed := status_of_closing job.responder (clock job.turns) tick job.channel exit
    · rw [done]
      exact .closed exit
    · rw [crashed]
      exact .crashed exit

theorem Through.run (through : job.Through) (horizon : Option Nat) (fuel : Nat)
    (clock : Clock) (tick : Nat) :
    job.status.Concludes (job.run horizon (fuel + 1) clock tick).job.status := by
  obtain ended | ⟨exit, closing⟩ := through
  · rw [run_of_ended ended]
    exact .ended ended
  · obtain ⟨responder, channel, status, turns⟩ := job
    obtain rfl : status = .running (.closing exit) := closing
    simp only [Job.run, runTurns, Responder.turn]
    obtain done | crashed := status_of_closing responder (clock turns) tick channel exit
    · rw [done]
      exact .closed exit
    · rw [crashed]
      exact .crashed exit

omit [Channel C] in
theorem abort_of_ended (ended : job.status.isRunning = false) : job.abort = job := by
  rw [abort, ended]
  rfl

omit [Channel C] in
/-- Being told to stop ends a job, and does not make it return. -/
theorem status_abort (job : Job C) :
    job.abort.status.isRunning = false ∧ job.abort.status.exit? = job.status.exit? := by
  cases status : job.status with
  | running phase => simp [abort, status, Status.isRunning, Status.exit?]
  | _ => simp [abort, status, Status.isRunning]

theorem aborted_of_turn {clock : Clock} {tick : Nat}
    (aborted : (job.turn clock tick).1.status = .aborted) : job.status = .aborted := by
  cases status : job.status with
  | running phase =>
      rw [turn_of_running status] at aborted
      simp only at aborted
      generalize (job.responder.step (clock job.turns) tick phase job.channel).verdict = verdict
        at aborted
      cases verdict <;> cases aborted
  | aborted => rfl
  | _ => rwa [turn_of_ended (by rw [status]; rfl), status] at aborted

theorem aborted_of_run {horizon : Option Nat} {fuel : Nat} {clock : Clock} {tick : Nat}
    (aborted : (job.run horizon fuel clock tick).job.status = .aborted) :
    job.status = .aborted := by
  obtain ⟨responder, channel, status, turns⟩ := job
  cases status with
  | running phase =>
      simp only [Job.run] at aborted
      generalize (runTurns (responder.turn clock) Responder.wake? horizon fuel tick ⟨phase, turns⟩
        channel).verdict = verdict at aborted
      cases verdict <;> cases aborted
  | _ => exact aborted

end Job

namespace Bus.Scripted

variable {clock : Role → Clock} {bus now later : Scripted} {moves : List Move}

/-! What stays as it is -/

theorem job_release (bus : Scripted) (role : Role) :
    Scripted.job bus.release role = bus.job role := by
  rw [release_eq]
  cases role <;> rfl

theorem status_of_act {role : Role} (ended : (bus.job role).status.isRunning = false)
    (step : Step) : ((bus.act step).job role).status = (bus.job role).status := by
  cases step with
  | abortHealth =>
      cases role with
      | health => exact congrArg Job.status (Job.abort_of_ended ended)
      | termination => rfl
  | abortTermination =>
      cases role with
      | health => rfl
      | termination => exact congrArg Job.status (Job.abort_of_ended ended)
  | _ => cases role <;> rfl

theorem status_of_move (clock : Role → Clock) {role : Role}
    (ended : (bus.job role).status.isRunning = false)
    (next : Move) : ((bus.move clock next).job role).status = (bus.job role).status := by
  rw [move, job_release]
  cases next with
  | health tick =>
      cases role with
      | health => exact congrArg (·.1.status) (Job.turn_of_ended ended (clock .health) tick)
      | termination => rfl
  | termination tick =>
      rw [make_termination, observe_eq]
      cases role with
      | health => rfl
      | termination =>
          exact congrArg (·.1.status) (Job.turn_of_ended ended (clock .termination) tick)
  | act step => exact status_of_act ended step
  | clock tick => cases role <;> rfl
  | poll => cases role <;> rfl

theorem termination_move (clock : Role → Clock) (bus : Scripted) (tick : Nat) :
    (bus.move clock (.termination tick)).termination =
      (bus.termination.turn (clock .termination) tick).1 := by
  rw [move, release_eq, make_termination, observe_eq]

theorem status_of_after (clock : Role → Clock) {role : Role}
    (ended : (bus.job role).status.isRunning = false)
    (moves : List Move) : ((bus.after clock moves).job role).status = (bus.job role).status := by
  induction moves generalizing bus with
  | nil => rfl
  | cons next moves ih =>
      have same := status_of_move clock ended next
      exact (ih (same ▸ ended)).trans same

theorem aborted_of_act {step : Step} (aborted : (bus.act step).termination.status = .aborted) :
    bus.termination.status = .aborted ∨ step = .abortTermination := by
  cases step with
  | abortTermination => exact .inr rfl
  | _ => exact .inl aborted

theorem aborted_of_move {next : Move}
    (aborted : (bus.move clock next).termination.status = .aborted) :
    bus.termination.status = .aborted ∨ next = .act .abortTermination := by
  have made : ((bus.make clock next).job .termination).status = .aborted := by
    rw [← job_release]
    exact aborted
  cases next with
  | termination tick =>
      rw [make_termination, observe_eq] at made
      exact .inl (Job.aborted_of_turn made)
  | act step =>
      obtain before | rfl := aborted_of_act made
      · exact .inl before
      · exact .inr rfl
  | _ => exact .inl made

theorem aborted_of_after (aborted : (bus.after clock moves).termination.status = .aborted) :
    bus.termination.status = .aborted ∨ .act .abortTermination ∈ moves := by
  induction moves generalizing bus with
  | nil => exact .inl aborted
  | cons next moves ih =>
      obtain first | later := ih aborted
      · obtain before | rfl := aborted_of_move first
        · exact .inl before
        · exact .inr List.mem_cons_self
      · exact .inr (List.mem_cons_of_mem _ later)

/-! Being through -/

/-- A wait for a request to terminate is over once the job behind it is through. -/
theorem through_of_wait (sound : now.Sound) {told : Bool} (resolved : now.wait = some told) :
    now.termination.Through := by
  have tells := sound.tells
  cases told with
  | true =>
      rw [sound.wait_eq_true.mp resolved] at tells
      cases status : now.termination.status with
      | running phase =>
          rw [status] at tells
          obtain ⟨-, requested⟩ := tells
          cases phase with
          | closing exit => exact .inr ⟨exit, status⟩
          | _ => cases requested
      | _ => exact .inl (by rw [status]; rfl)
  | false =>
      obtain ⟨-, crashed | aborted | ⟨consecutive, finished⟩⟩ := sound.wait_eq_false.mp resolved
      · exact .inl (by rw [crashed]; rfl)
      · exact .inl (by rw [aborted]; rfl)
      · exact .inl (by rw [finished]; rfl)

/-- What a join answers: how the health job had ended by the time it was told to stop, and the end
of the termination job in keeping with what those who waited were told. -/
structure Accounts (exits : Exits) (health termination : Status) (resolved : Bool → Prop)
    (stopped : Prop) : Prop where
  health : exits.health = health.exit?
  terminated : resolved true → termination ≠ .crashed → ¬ stopped →
    exits.termination = some .terminated
  unterminated : resolved false → exits.termination ≠ some .terminated

/-- Nothing is pending after the last turn, and the answer accounts for what was told before. -/
theorem accounts_of_conclusion (sound : now.Sound) {health : Status} {resolved : Bool → Prop}
    {stopped : Prop} (ended : now.health.status.isRunning = false)
    (sameExit : now.health.status.exit? = health.exit?)
    (same : later.health.status = now.health.status)
    (concludes : now.termination.status.Concludes later.termination.status)
    (told : ∀ told, resolved told → now.wait = some told)
    (aborts : now.termination.status = .aborted → stopped) :
    ∃ exits, later.exits? = some exits ∧
      Accounts exits health later.termination.status resolved stopped := by
  refine ⟨⟨later.health.status.exit?, later.termination.status.exit?⟩, ?_, ?_, ?_, ?_⟩
  · rw [exits?, same, ended, concludes.isEnded]
    rfl
  · exact (congrArg Status.exit? same).trans sameExit
  · intro asked calm unstopped
    have tells := sound.tells
    rw [sound.wait_eq_true.mp (told true asked)] at tells
    exact congrArg Status.exit? (concludes.terminated tells calm fun aborted =>
      unstopped (aborts aborted))
  · intro denied
    exact concludes.unterminated (sound.wait_eq_false.mp (told false denied)).2

/-! Any moves -/

def stop : Role → Step
  | .health => .abortHealth
  | .termination => .abortTermination

theorem status_stop (bus : Scripted) (role : Role) :
    ((bus.act (stop role)).job role).status.isRunning = false ∧
      ((bus.act (stop role)).job role).status.exit? = (bus.job role).status.exit? := by
  cases role <;> exact Job.status_abort _

theorem stopped_after (clock : Role → Clock) (bus : Scripted) (role : Role)
    (first rest : List Move) :
    let stopped := (bus.after clock (first ++ .act (stop role) :: rest)).job role
    stopped.status.isRunning = false ∧
      stopped.status.exit? = ((bus.after clock first).job role).status.exit? := by
  obtain ⟨ended, exit⟩ := status_stop (bus.after clock first) role
  rw [← job_release] at ended exit
  have same := status_of_after clock ended rest
  rw [after_append]
  exact ⟨(congrArg Status.isRunning same).trans ended, (congrArg Status.exit? same).trans exit⟩

/-- Somewhere among these moves, a wait was over. -/
def Resolved (clock : Role → Clock) (bus : Scripted) (moves : List Move) (told : Bool) : Prop :=
  ∃ past more, moves = past ++ more ∧ (bus.after clock past).wait = some told

theorem Resolved.wait (fresh : bus.Fresh) {told : Bool} (resolved : Resolved clock bus moves told) :
    (bus.after clock moves).wait = some told := by
  obtain ⟨past, more, rfl, waited⟩ := resolved
  exact (safe_of_fresh fresh clock past).wait_stays more told waited

/-- Wherever its jobs were when they were told to stop, a bus that is through is at most one turn
of the termination job away from its end. -/
theorem teardown_after (fresh : bus.Fresh) (clock : Role → Clock) (first rest : List Move)
    (settled : .act .abortTermination ∈ first ++ .act .abortHealth :: rest ∨
      ∃ told, Resolved clock bus (first ++ .act .abortHealth :: rest) told) (tick : Nat) :
    let moves := first ++ .act .abortHealth :: rest
    let later := bus.after clock (moves ++ [.termination tick])
    ∃ exits, later.exits? = some exits ∧
      Accounts exits (bus.after clock first).health.status later.termination.status
        (Resolved clock bus moves) (.act .abortTermination ∈ moves) := by
  intro moves later
  have past : Past clock bus moves (bus.after clock moves) := past_of_fresh fresh moves
  have sound := past.sound
  obtain ⟨ended, exit⟩ := stopped_after clock bus .health first rest
  have through : (bus.after clock moves).termination.Through := by
    obtain stopped | ⟨told, resolved⟩ := settled
    · obtain ⟨before, more, split⟩ := List.append_of_mem stopped
      left
      have ended := (stopped_after clock bus .termination before more).1
      rwa [stop, ← split] at ended
    · exact through_of_wait sound (resolved.wait fresh)
  have same : later.health.status = (bus.after clock moves).health.status := by
    rw [show later = _ from after_concat ..]
    exact status_of_move clock ended _
  have concludes : (bus.after clock moves).termination.status.Concludes
      later.termination.status := by
    rw [show later = _ from after_concat .., termination_move]
    exact through.turn (clock .termination) tick
  exact accounts_of_conclusion sound ended exit same concludes
    (fun told resolved => resolved.wait fresh)
    (fun aborted => (aborted_of_after aborted).resolve_left fresh.unstopped)

/-! Any steps -/

theorem status_of_step (clock : Role → Clock) {role : Role}
    (ended : (bus.job role).status.isRunning = false)
    (step : Step) : ((bus.step clock step).1.job role).status = (bus.job role).status := by
  have same := status_of_act ended step
  rw [(job_step clock bus step role).1, Job.run_of_ended (same ▸ ended)]
  exact same

theorem status_of_follow (clock : Role → Clock) {role : Role}
    (ended : (bus.job role).status.isRunning = false)
    (steps : List Step) : ((bus.follow clock steps).job role).status = (bus.job role).status := by
  induction steps generalizing bus with
  | nil => rfl
  | cons step steps ih =>
      have same := status_of_step clock ended step
      exact (ih (same ▸ ended)).trans same

theorem stopped_follow (clock : Role → Clock) (bus : Scripted) (role : Role)
    (first rest : List Step) :
    let stopped := (bus.follow clock (first ++ stop role :: rest)).job role
    stopped.status.isRunning = false ∧
      stopped.status.exit? = ((bus.follow clock first).job role).status.exit? := by
  obtain ⟨ended, exit⟩ := status_stop (bus.follow clock first) role
  have stepped : ((bus.follow clock first).step clock (stop role)).1.job role =
      ((bus.follow clock first).act (stop role)).job role := by
    rw [(job_step clock (bus.follow clock first) (stop role) role).1, Job.run_of_ended ended]
  rw [← stepped] at ended exit
  have same := status_of_follow clock ended rest
  rw [follow_append]
  exact ⟨(congrArg Status.isRunning same).trans ended, (congrArg Status.exit? same).trans exit⟩

theorem aborted_of_follow {steps : List Step}
    (aborted : (bus.follow clock steps).termination.status = .aborted) :
    bus.termination.status = .aborted ∨ .abortTermination ∈ steps := by
  induction steps generalizing bus with
  | nil => exact .inl aborted
  | cons step steps ih =>
      obtain first | later := ih aborted
      · have stepped := (job_step clock bus step .termination).1
        have ran : ((bus.step clock step).1.job .termination).status = .aborted := first
        rw [stepped] at ran
        obtain before | rfl := aborted_of_act (Job.aborted_of_run ran)
        · exact .inl before
        · exact .inr List.mem_cons_self
      · exact .inr (List.mem_cons_of_mem _ later)

/-- A report says that a wait is over. -/
def Told (reports : List Report) (told : Bool) : Prop :=
  ∃ report ∈ reports, report.wait = some (some told)

theorem wait_of_asked (safe : bus.Safe clock moves) {step : Step} {told : Bool}
    (asked : (bus.after clock moves).asked step = some (some told)) :
    (bus.after clock moves).wait = some told := by
  cases step with
  | wait => exact Option.some.inj asked
  | checkWait =>
      obtain ⟨wait, first, waited⟩ := Option.bind_eq_some_iff.mp (Option.some.inj asked)
      exact safe.spawned wait (List.mem_of_mem_head? first) told waited
  | _ => cases asked

/-- What is once told of a wait stays so. -/
theorem wait_of_told (fresh : bus.Fresh) {steps : List Step} {told : Bool}
    (tells : Told (bus.run clock (steps ++ [.join])) told) :
    (bus.follow clock steps).wait = some told := by
  obtain ⟨report, member, waited⟩ := tells
  obtain ⟨n, reported⟩ := List.mem_iff_getElem?.mp member
  obtain ⟨step, there, rfl⟩ := report_of_run clock bus (steps ++ [.join]) reported
  have few : n ≤ steps.length := by
    obtain ⟨inside, -⟩ := List.getElem?_eq_some_iff.mp there
    rw [List.length_append, List.length_singleton] at inside
    exact Nat.le_of_lt_succ inside
  rw [List.take_append_of_le_length few] at waited
  -- The report was made at some moves, of which those of all the steps are a continuation.
  obtain ⟨moves, moves', came, further⟩ :=
    exists_moves_of_steps clock fresh.sound.release (steps.take n) (steps.drop n)
  rw [List.take_append_drop] at further
  have safe := safe_of_fresh fresh clock moves
  have asked : (bus.after clock moves).asked step = some (some told) := came ▸ waited
  rw [← further]
  exact safe.wait_stays moves' told (wait_of_asked safe asked)

theorem getLast?_run_join (clock : Role → Clock) (bus : Scripted) {steps : List Step}
    (goesOn : .join ∉ steps) :
    (bus.run clock (steps ++ [.join])).getLast? =
      some ((bus.follow clock steps).step clock .join).2 := by
  induction steps generalizing bus with
  | nil => rfl
  | cons step steps ih =>
      have other : step ≠ .join := fun same => goesOn (same ▸ List.mem_cons_self)
      rw [List.cons_append, run_cons, if_neg other, List.getLast?_cons,
        ih _ fun joins => goesOn (List.mem_cons_of_mem _ joins)]
      rfl

theorem sound_of_follow (clock : Role → Clock) (fresh : bus.Fresh) (steps : List Step) :
    (bus.follow clock steps).Sound := by
  obtain ⟨moves, came⟩ := reaches_of_follow clock fresh.sound.release steps
  rw [← came]
  exact (past_of_fresh fresh moves).sound

/-- A join of a bus that is through is answered. -/
theorem teardown_run (fresh : bus.Fresh) (clock : Role → Clock) (first rest : List Step)
    (goesOn : .join ∉ first ++ .abortHealth :: rest)
    (settled : .abortTermination ∈ first ++ .abortHealth :: rest ∨
      ∃ told, Told (bus.run clock (first ++ .abortHealth :: rest ++ [.join])) told) :
    let steps := first ++ .abortHealth :: rest
    let later := ((bus.follow clock steps).step clock .join).1
    ∃ last exits, (bus.run clock (steps ++ [.join])).getLast? = some last ∧
      last.exits = some (some exits) ∧
      Accounts exits (bus.follow clock first).health.status later.termination.status
        (Told (bus.run clock (steps ++ [.join]))) (.abortTermination ∈ steps) := by
  intro steps later
  have sound := sound_of_follow clock fresh steps
  obtain ⟨ended, exit⟩ := stopped_follow clock bus .health first rest
  have through : (bus.follow clock steps).termination.Through := by
    obtain stopped | ⟨told, tells⟩ := settled
    · obtain ⟨before, more, split⟩ := List.append_of_mem stopped
      left
      have ended := (stopped_follow clock bus .termination before more).1
      rwa [stop, ← split] at ended
    · exact through_of_wait sound (wait_of_told fresh tells)
  have concludes : (bus.follow clock steps).termination.status.Concludes
      later.termination.status := by
    have stepped := (job_step clock (bus.follow clock steps) .join .termination).1
    rw [show later.termination = _ from stepped]
    exact through.run none _ (clock .termination) _
  obtain ⟨exits, joined, accounts⟩ := accounts_of_conclusion sound ended exit
    (status_of_step clock ended .join) concludes (fun told => wait_of_told fresh)
    (fun aborted => (aborted_of_follow aborted).resolve_left fresh.unstopped)
  refine ⟨_, exits, getLast?_run_join clock bus goesOn, ?_, accounts⟩
  exact congrArg some joined

end Bus.Scripted

namespace Settings

open Bus Bus.Scripted

variable (settings : Settings) (endpoint : Role → Endpoint) (script : Role → Script)

theorem fresh_bus : (settings.bus endpoint script).Fresh :=
  ⟨rfl, rfl, rfl, rfl, rfl⟩

/-- Teardown never hangs. Whatever its jobs were doing when the health job was told to stop, and in
whatever order they make their turns, a bus answers a join if a wait for a request to terminate was
over or the termination job was told to stop as well; and the answer accounts for both. -/
theorem teardown_completes (clock : Role → Clock) :
    (∀ (first rest : List Move) (tick : Nat),
      let moves := first ++ .act .abortHealth :: rest
      .act .abortTermination ∈ moves ∨
        (∃ told, Resolved clock (settings.bus endpoint script) moves told) →
      let later := (settings.bus endpoint script).after clock (moves ++ [.termination tick])
      ∃ exits, later.exits? = some exits ∧
        Accounts exits ((settings.bus endpoint script).after clock first).health.status
          later.termination.status (Resolved clock (settings.bus endpoint script) moves)
          (.act .abortTermination ∈ moves)) ∧
    ∀ (first rest : List Step) (reports : List Report),
      let steps := first ++ .abortHealth :: rest
      .join ∉ steps →
      Unfolds clock (settings.bus endpoint script) (steps ++ [.join]) reports →
      .abortTermination ∈ steps ∨ (∃ told, Told reports told) →
      let later := (((settings.bus endpoint script).follow clock steps).step clock .join).1
      ∃ last exits, reports.getLast? = some last ∧ last.exits = some (some exits) ∧
        Accounts exits ((settings.bus endpoint script).follow clock first).health.status
          later.termination.status (Told reports) (.abortTermination ∈ steps) := by
  have fresh := settings.fresh_bus endpoint script
  refine ⟨fun first rest tick settled => teardown_after fresh clock first rest settled tick, ?_⟩
  intro first rest reports steps goesOn unfolds settled
  obtain rfl := (unfolds_iff (settings.sane_bus endpoint script)).mp unfolds
  exact teardown_run fresh clock first rest goesOn settled

/-- A health job that is stopped while it waits for more to receive, and a termination job that is
stopped by nobody: in one case it still has to close, in the other one it has come to its end. -/
theorem teardown_completes_past_last_close :
    let settings : Settings := ⟨0, 2, ⟨"worker", 7⟩, .slept⟩
    let request := (Envelope.terminateWorkerRequest ⟨0, 0, 0⟩).encode
    let clock : Role → Clock := fun _ turn => ⟨0, turn, 0⟩
    let script : Role → Script
      | .health => { prepared := true, dialed := true, live := true }
      | .termination => { prepared := true, dialed := true, arrivals := [.datagram request] }
    let bus := settings.bus (fun _ => .new "a.sock") script
    let answered : List Move := List.replicate 4 (.termination 0)
    let moves := answered ++ [.act .abortHealth]
    let reports := bus.run clock [.look, .abortHealth, .wait, .join]
    (bus.after clock moves).exits? = none ∧
      (∃ exits, (bus.after clock (moves ++ [.termination 0])).exits? = some exits ∧
        exits.termination = some .terminated) ∧
      ∃ last exits, reports.getLast? = some last ∧ last.exits = some (some exits) ∧
        exits.health = none ∧ exits.termination = some .terminated := by
  intro settings request clock script bus answered moves reports
  obtain ⟨after, run⟩ := settings.teardown_completes (fun _ => .new "a.sock") script clock
  have resolved : Resolved clock bus moves true := ⟨answered, _, rfl, by decide +kernel⟩
  obtain ⟨exits, joined, accounts⟩ := after answered [] 0 (.inr ⟨true, resolved⟩)
  refine ⟨by decide +kernel, ⟨exits, joined, ?_⟩, ?_⟩
  · exact accounts.terminated resolved (by decide +kernel) (by decide)
  · have told : some (some true) ∈ reports.map (·.wait) := by decide +kernel
    obtain ⟨report, member, waited⟩ := List.mem_map.mp told
    have tells : Told reports true := ⟨report, member, waited⟩
    obtain ⟨last, exits, final, joined, accounts⟩ := run [.look] [.wait] reports (by decide)
      ((unfolds_iff (settings.sane_bus _ script)).mpr rfl) (.inr ⟨true, tells⟩)
    refine ⟨last, exits, final, joined, accounts.health.trans (by decide +kernel), ?_⟩
    exact accounts.terminated tells (by decide +kernel) (by decide)

end Settings

end Heartbeat
