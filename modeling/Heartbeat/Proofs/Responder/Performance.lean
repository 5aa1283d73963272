import Heartbeat.Program
import Heartbeat.Proofs.Responder.Moves

/-!
The program makes the turns of its responders one at a time and reads its clock for each of them.
What comes of that is what comes of whole runs of its bus, by clocks that show what was read.
-/

namespace Heartbeat

/-- One who waits has read no clock: the turn is the same at any date. -/
theorem Responder.step_of_waiting [Channel C] {responder : Responder} {channel : C}
    {date : Calendar.Instant} {phase : Phase} {tick : Nat}
    (waits : (responder.step date tick phase channel).verdict = .waiting)
    (date' : Calendar.Instant) :
    responder.step date' tick phase channel = responder.step date tick phase channel := by
  cases phase with
  | receiving budget =>
      simp only [step, receive] at waits ⊢
      cases result : (Channel.receive channel).result with
      | datagram bytes =>
          rw [result] at waits
          cases waits
      | failed fault => rfl
      | waiting => rfl
      | crashed => rfl
  | replying budget =>
      simp only [step, reply] at waits
      split at waits <;> cases waits
  | _ => rfl

namespace Job

variable [Channel C] {clock clock' : Clock} {job : Job C}

def Progress.after (events : List Event) (progress : Progress C) : Progress C :=
  { progress with events := events ++ progress.events }

theorem run_zero (clock : Clock) (tick : Nat) (job : Job C) :
    (job.run none 0 clock tick).job = job ∧ (job.run none 0 clock tick).events = [] := by
  obtain ⟨responder, channel, status, turns⟩ := job
  cases status <;> exact ⟨rfl, rfl⟩

/-- A run reads the clock in the turns to come, and in no others. -/
theorem runTurns_congr {responder : Responder} {post : Post}
    (same : ∀ turn, post.turns ≤ turn → clock turn = clock' turn) (fuel tick : Nat) (channel : C) :
    runTurns (responder.turn clock) Responder.wake? none fuel tick post channel =
      runTurns (responder.turn clock') Responder.wake? none fuel tick post channel := by
  induction fuel generalizing tick post channel with
  | zero => rfl
  | succ fuel ih =>
      simp only [runTurns, Responder.turn, same post.turns (Nat.le_refl _)]
      cases (responder.step (clock' post.turns) tick post.phase channel).verdict with
      | go next =>
          simp only [Verdict.map_go]
          rw [ih fun turn later => same turn (Nat.le_of_succ_le later)]
      | waiting =>
          cases wakes : Responder.wake? post with
          | none => rfl
          | some wake =>
              simp only [Verdict.map_waiting]
              rw [ih same]
      | finished exit => rfl
      | crashed => rfl

theorem run_congr (same : ∀ turn, job.turns ≤ turn → clock turn = clock' turn) (fuel tick : Nat) :
    job.run none fuel clock tick = job.run none fuel clock' tick := by
  unfold Job.run
  split
  · rw [runTurns_congr same]
  · rfl

/-- A run makes one turn, and then the others. -/
theorem run_succ (clock : Clock) (fuel tick : Nat) (job : Job C) :
    let first := job.run none 1 clock tick
    job.run none (fuel + 1) clock tick =
      match first.next? with
      | some next => (first.job.run none fuel clock next).after first.events
      | none => first := by
  obtain ⟨responder, channel, status, turns⟩ := job
  cases status with
  | running phase =>
      simp only [Job.run, runTurns, Responder.turn]
      cases made : (responder.step (clock turns) tick phase channel).verdict with
      | go next =>
          simp only [Verdict.map_go, Progress.next?, Run.after, Verdict.goesOn, if_true,
            Status.ofVerdict, Progress.after, List.append_nil]
      | waiting =>
          cases wakes : Responder.wake? ⟨phase, turns⟩ with
          | none => rfl
          | some wake =>
              simp only [Verdict.map_waiting, Progress.next?, Run.after, Verdict.goesOn, if_true,
                Status.ofVerdict, Progress.after, List.append_nil, Option.all_none]
              rfl
      | finished exit => rfl
      | crashed => rfl
  | _ => rfl

theorem run_one_congr (same : clock job.turns = clock' job.turns) (tick : Nat) :
    job.run none 1 clock tick = job.run none 1 clock' tick := by
  unfold Job.run
  split
  · simp only [runTurns, Responder.turn, same]
  · rfl

/-- A turn that leads a job on is another one the next time, and a job that waits has read no
clock. -/
theorem unread_or_turns (clock : Clock) (tick : Nat) (job : Job C) :
    let first := job.run none 1 clock tick
    (∀ clock', job.run none 1 clock' tick = first) ∨
      ∀ next, first.next? = some next → first.job.turns = job.turns + 1 := by
  obtain ⟨responder, channel, status, turns⟩ := job
  cases status with
  | running phase =>
      cases made : (responder.step (clock turns) tick phase channel).verdict with
      | waiting =>
          left
          intro clock'
          simp only [Job.run, runTurns, Responder.turn,
            Responder.step_of_waiting made (clock' turns)]
      | go later =>
          right
          intro next _
          simp only [Job.run, runTurns, Responder.turn, made]
          rfl
      | finished exit =>
          right
          intro next goesOn
          simp only [Job.run, runTurns, Responder.turn, made] at goesOn
          cases goesOn
      | crashed =>
          right
          intro next goesOn
          simp only [Job.run, runTurns, Responder.turn, made] at goesOn
          cases goesOn
  | _ => exact .inl fun clock' => rfl

/-- A reading for the first turn and a clock for the others make a clock for all of them. -/
theorem exists_clock (date : Calendar.Instant) (clock' : Clock) (tick : Nat) (job : Job C) :
    let first := job.run none 1 (fun _ => date) tick
    ∃ clock, ∀ fuel, job.run none (fuel + 1) clock tick =
      match first.next? with
      | some next => (first.job.run none fuel clock' next).after first.events
      | none => first := by
  intro first
  obtain unread | turns := unread_or_turns (fun _ => date) tick job
  · exact ⟨clock', fun fuel => by rw [run_succ, unread]⟩
  · let clock : Clock := fun turn => if turn = job.turns then date else clock' turn
    have begins : job.run none 1 clock tick = first := run_one_congr (if_pos rfl) tick
    refine ⟨clock, fun fuel => ?_⟩
    rw [run_succ, begins]
    cases goesOn : first.next? with
    | none => rfl
    | some next =>
        have later : ∀ turn, first.job.turns ≤ turn → clock turn = clock' turn := by
          intro turn late
          rw [turns next goesOn] at late
          exact if_neg (Nat.ne_of_gt late)
        simp only
        rw [run_congr later]

end Job

namespace Program

/-- A clock that shows one reading after the other. -/
def readOff (readings : Nat → Calendar.Instant) : StateM Nat Calendar.Instant :=
  fun n => (readings n, n + 1)

variable (readings : Nat → Calendar.Instant)

def toldOf (log : Array Entry) : List Notice :=
  log.toList.map Entry.notice

theorem toldOf_stamped (log : Array Entry) (date : Calendar.Instant) (notices : List Notice) :
    toldOf (log ++ stamped date notices) = toldOf log ++ notices := by
  simp [toldOf, stamped, Function.comp_def]

theorem noticesOf_append (events more : List Event) :
    noticesOf (events ++ more) = noticesOf events ++ noticesOf more :=
  List.filterMap_append ..

theorem note_zero (clock : Clock) (tick : Nat) (bus : Clients) (role : Role) :
    note bus ((job bus role).run none 0 clock tick) role = bus := by
  obtain ⟨same, quiet⟩ := Job.run_zero clock tick (job bus role)
  cases role with
  | health =>
      rw [note, same]
      rfl
  | termination =>
      rw [note, same, quiet]
      rfl

theorem job_note (bus : Clients) (progress : Job.Progress Client) (role : Role) :
    job (note bus progress role) role = progress.job := by
  cases role with
  | health => rfl
  | termination =>
      rw [note, Bus.observe_eq]
      rfl

theorem note_note (bus : Clients) (first progress : Job.Progress Client) (role : Role) :
    note (note bus first role) progress role = note bus (progress.after first.events) role := by
  cases role with
  | health => rfl
  | termination =>
      simp only [note, Job.Progress.after, Bus.observe_append]
      rw [Bus.observe_eq _ first.events, Bus.observe_eq _ first.events]

/-- To let a responder make its turns is to run its job. -/
theorem work_eq (role : Role) (fuel tick : Nat) (bus : Clients) (log : Array Entry) (n : Nat) :
    ∃ clock log' n',
      let progress := (job bus role).run none fuel clock tick
      work (readOff readings) role fuel tick bus log n = ((note bus progress role, log'), n') ∧
        toldOf log' = toldOf log ++ noticesOf progress.events := by
  induction fuel generalizing tick bus log n with
  | zero =>
      refine ⟨fun _ => readings n, log, n, ?_⟩
      obtain ⟨-, quiet⟩ := Job.run_zero (fun _ => readings n) tick (job bus role)
      simp only [note_zero, quiet]
      exact ⟨rfl, (List.append_nil _).symm⟩
  | succ fuel ih =>
      let first := (job bus role).run none 1 (fun _ => readings n) tick
      let bus' := note bus first role
      let log' := log ++ stamped (readings n) (noticesOf first.events)
      have told : toldOf log' = toldOf log ++ noticesOf first.events := toldOf_stamped ..
      have worked : work (readOff readings) role (fuel + 1) tick bus log n =
          (match first.next? with
          | some next => work (readOff readings) role fuel next bus' log'
          | none => pure (bus', log')) (n + 1) := rfl
      rw [worked]
      cases goesOn : first.next? with
      | none =>
          obtain ⟨clock, runs⟩ := Job.exists_clock (readings n) (fun _ => readings n) tick
            (job bus role)
          refine ⟨clock, log', n + 1, ?_⟩
          rw [runs, goesOn]
          exact ⟨rfl, told⟩
      | some next =>
          obtain ⟨clock', log'', n'', rest, told'⟩ := ih next bus' log' (n + 1)
          obtain ⟨clock, runs⟩ := Job.exists_clock (readings n) clock' tick (job bus role)
          refine ⟨clock, log'', n'', ?_⟩
          rw [job_note] at rest told'
          rw [runs, goesOn]
          simp only
          rw [rest, note_note, told', told, Job.Progress.after, noticesOf_append, List.append_assoc]
          exact ⟨rfl, rfl⟩

theorem settle_eq (around : Surroundings) (config : Config) (fuel : Nat) (clock : Role → Clock) :
    let begun := bus around config
    let health := begun.health.run none fuel (clock .health) begun.tick
    let termination := begun.termination.run none fuel (clock .termination) begun.tick
    begun.settle none fuel fuel clock =
      ({ (note (note begun health .health) termination .termination).release with
          tick := max health.tick termination.tick },
        ⟨health.events, termination.events⟩) := by
  simp only [Bus.settle, note, Bus.observe_eq, Bus.release_eq, Bus.pollWaits]
  rfl

/-- At the end nobody looks at the time that sleepers go by. -/
theorem finish_release (around : Surroundings) (journal : Journal) (date : Calendar.Instant)
    (bus : Clients) (tick : Nat) (log : Array Entry) :
    finish around journal date { bus.release with tick } log =
      finish around journal date bus log := by
  have released : ({ bus.release with tick } : Clients).release = { bus.release with tick } :=
    Bus.release_with (Bus.release_release bus) bus.release.health bus.release.waits tick
  have stops : ∀ answer, stop answer { bus.release with tick } =
      { stop answer bus.release with tick } := fun answer => by cases answer <;> rfl
  have waits : ({ bus.release with tick } : Clients).wait = bus.release.wait := rfl
  simp only [finish, released, waits, stops]
  rfl

/-- What the program performs is what comes of its bus when that has settled, by clocks that show
what was read. -/
theorem perform_settles (around : Surroundings) (opening : Opening) (n : Nat) :
    let fuel := patience around (opening.config.settings around.pid)
    ∃ clock date log,
      let settled := (bus around opening.config).settle none fuel fuel clock
      (perform (readOff readings) around opening n).1 =
          finish around opening.journal date settled.1 log ∧
        toldOf log =
          toldOf opening.told ++ noticesOf settled.2.health ++
            noticesOf settled.2.termination := by
  intro fuel
  let begun := bus around opening.config
  obtain ⟨clock, log, n', worked, told⟩ :=
    work_eq readings .health fuel begun.tick begun opening.told n
  let health := (job begun .health).run none fuel clock begun.tick
  obtain ⟨clock', log', n'', worked', told'⟩ :=
    work_eq readings .termination fuel begun.tick (note begun health .health) log n'
  let termination := (job begun .termination).run none fuel clock' begun.tick
  let clocks : Role → Clock := fun role => if role = .health then clock else clock'
  refine ⟨clocks, readings n'', log', ?_⟩
  rw [settle_eq]
  simp only [finish_release]
  constructor
  · simp only [perform, bind, StateT.bind]
    rw [worked]
    simp only
    rw [worked']
    rfl
  · rw [told', told]
    rfl

end Program

end Heartbeat
