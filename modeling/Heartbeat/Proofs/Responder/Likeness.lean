import Heartbeat.Proofs.Responder.Course

/-!
Channels that answer alike. No responder can tell them apart, and so the course of a responder on a
script is its course in the scenario that continues the script.
-/

namespace Heartbeat

/-- Two answers with the same result and the same notices, after which the likeness still holds. -/
structure Answer.Agrees (Like : C → D → Prop) (answer : Answer C ρ) (answer' : Answer D ρ) :
    Prop where
  result : answer.result = answer'.result
  notices : answer.notices = answer'.notices
  state : Like answer.state answer'.state

/-- A likeness between the states of two channels that no call reveals. -/
structure Channel.Alike [Channel C] [Channel D] (Like : C → D → Prop) : Prop where
  prepare : ∀ endpoint c d, Like c d → (prepare endpoint c).Agrees Like (prepare endpoint d)
  dial : ∀ endpoint c d, Like c d → (dial endpoint c).Agrees Like (dial endpoint d)
  send : ∀ bytes c d, Like c d → (send bytes c).Agrees Like (send bytes d)
  receive : ∀ c d, Like c d → (receive c).Agrees Like (receive d)
  close : ∀ c d, Like c d → (close c).Agrees Like (close d)
  isPrepared : ∀ c d, Like c d → isPrepared c = isPrepared d
  isDialed : ∀ c d, Like c d → isDialed c = isDialed d

structure Turn.Agrees (Like : C → D → Prop) (turn : Turn C σ α) (turn' : Turn D σ α) : Prop where
  verdict : turn.verdict = turn'.verdict
  events : turn.events = turn'.events
  channel : Like turn.channel turn'.channel

structure Run.Agrees (Like : C → D → Prop) (run : Run C σ α) (run' : Run D σ α) : Prop where
  state : run.state = run'.state
  verdict : run.verdict = run'.verdict
  channel : Like run.channel run'.channel
  events : run.events = run'.events
  tick : run.tick = run'.tick

section

variable {C D : Type} {Like : C → D → Prop}

/-! Connecting -/

namespace Connector

variable (connector : Connector)

theorem advance_agrees (call : Call) (what : String) (attempt : Attempt) (next : Stage)
    {answer : Answer C Reaction} {answer' : Answer D Reaction}
    (agrees : answer.Agrees Like answer') :
    (connector.advance call what attempt next answer).Agrees Like
      (connector.advance call what attempt next answer') := by
  obtain ⟨result, notices, state⟩ := agrees
  unfold advance
  rw [result, notices]
  cases answer'.result with
  | done => exact ⟨rfl, rfl, state⟩
  | failed fault => exact ⟨rfl, rfl, state⟩
  | crashed => exact ⟨rfl, rfl, state⟩

theorem discard_agrees (attempt : Attempt) {answer : Answer C Reaction}
    {answer' : Answer D Reaction} (agrees : answer.Agrees Like answer') :
    (discard attempt answer).Agrees Like (discard attempt answer') := by
  obtain ⟨result, notices, state⟩ := agrees
  unfold discard
  rw [result, notices]
  cases answer'.result with
  | done => exact ⟨rfl, rfl, state⟩
  | failed fault => exact ⟨rfl, rfl, state⟩
  | crashed => exact ⟨rfl, rfl, state⟩

theorem pause_agrees (tick : Nat) (attempt : Attempt) {c : C} {d : D} (like : Like c d) :
    (connector.pause tick attempt c).Agrees Like (connector.pause tick attempt d) := by
  unfold pause
  cases connector.pacing with
  | noted => exact ⟨rfl, rfl, like⟩
  | skipped => exact ⟨rfl, rfl, like⟩
  | slept => exact ⟨rfl, rfl, like⟩

variable [Channel C] [Channel D]

theorem step_agrees (alike : Channel.Alike Like) (tick : Nat) (attempt : Attempt) {c : C} {d : D}
    (like : Like c d) :
    (connector.step tick attempt c).Agrees Like (connector.step tick attempt d) := by
  unfold step
  cases attempt.stage with
  | checking =>
      simp only [alike.isDialed c d like]
      split
      · exact ⟨rfl, rfl, like⟩
      · apply connector.advance_agrees
        exact alike.prepare _ c d like
  | dialing =>
      apply connector.advance_agrees
      exact alike.dial _ c d like
  | discarding =>
      apply discard_agrees
      exact alike.close c d like
  | pausing => exact connector.pause_agrees tick attempt like
  | asleep wake =>
      simp only
      split <;> exact ⟨rfl, rfl, like⟩

end Connector

/-! Responding -/

namespace Responder

variable [Channel C] [Channel D] (responder : Responder) (date : Calendar.Instant)

theorem connect_agrees (alike : Channel.Alike Like) (tick : Nat) (attempt : Attempt) {c : C} {d : D}
    (like : Like c d) :
    (responder.connect tick attempt c).Agrees Like (responder.connect tick attempt d) := by
  obtain ⟨verdict, events, channel⟩ := responder.connector.step_agrees alike tick attempt like
  unfold connect
  simp only [verdict, events]
  cases (responder.connector.step tick attempt d).verdict with
  | go next => exact ⟨rfl, rfl, channel⟩
  | finished failed => exact ⟨rfl, rfl, channel⟩
  | waiting => exact ⟨rfl, rfl, channel⟩
  | crashed => exact ⟨rfl, rfl, channel⟩

theorem receive_agrees (alike : Channel.Alike Like) (budget : Budget) {c : C} {d : D}
    (like : Like c d) :
    (responder.receive date budget c).Agrees Like (responder.receive date budget d) := by
  obtain ⟨result, notices, state⟩ := alike.receive c d like
  unfold receive
  simp only [result, notices]
  cases (Channel.receive d).result with
  | datagram bytes => exact ⟨rfl, rfl, state⟩
  | failed fault => exact ⟨rfl, rfl, state⟩
  | waiting => exact ⟨rfl, rfl, state⟩
  | crashed => exact ⟨rfl, rfl, state⟩

theorem reply_agrees (alike : Channel.Alike Like) (budget : Budget) {c : C} {d : D}
    (like : Like c d) :
    (responder.reply date budget c).Agrees Like (responder.reply date budget d) := by
  obtain ⟨result, notices, state⟩ :=
    alike.send (responder.role.reply responder.identity date).encode c d like
  unfold reply
  simp only [result, notices]
  cases (Channel.send (responder.role.reply responder.identity date).encode d).result with
  | done => exact ⟨rfl, rfl, state⟩
  | failed fault => exact ⟨rfl, rfl, state⟩
  | crashed => exact ⟨rfl, rfl, state⟩

theorem close_agrees (alike : Channel.Alike Like) (exit : Exit) {c : C} {d : D}
    (like : Like c d) : (responder.close exit c).Agrees Like (responder.close exit d) := by
  obtain ⟨result, notices, state⟩ := alike.close c d like
  unfold close
  simp only [result, notices]
  cases (Channel.close d).result with
  | done => exact ⟨rfl, rfl, state⟩
  | failed fault => exact ⟨rfl, rfl, state⟩
  | crashed => exact ⟨rfl, rfl, state⟩

theorem step_agrees (alike : Channel.Alike Like) (tick : Nat) (phase : Phase) {c : C} {d : D}
    (like : Like c d) :
    (responder.step date tick phase c).Agrees Like (responder.step date tick phase d) := by
  cases phase with
  | starting =>
      simp only [step, start, alike.isPrepared c d like, alike.isDialed c d like]
      split <;> exact ⟨rfl, rfl, like⟩
  | connecting attempt => exact responder.connect_agrees alike tick attempt like
  | listening budget => exact ⟨rfl, rfl, like⟩
  | receiving budget => exact responder.receive_agrees date alike budget like
  | replying budget => exact responder.reply_agrees date alike budget like
  | closing exit => exact responder.close_agrees alike exit like

theorem turn_agrees (alike : Channel.Alike Like) (clock : Clock) (tick : Nat) (post : Post) {c : C}
    {d : D} (like : Like c d) :
    (responder.turn clock tick post c).Agrees Like (responder.turn clock tick post d) := by
  obtain ⟨verdict, events, channel⟩ :=
    responder.step_agrees (clock post.turns) alike tick post.phase like
  exact ⟨congrArg (Verdict.map _) verdict, events, channel⟩

end Responder

/-! Runs -/

theorem Run.Agrees.after {run : Run C σ α} {run' : Run D σ α} (agrees : run.Agrees Like run')
    (events : List Event) : (run.after events).Agrees Like (run'.after events) where
  state := agrees.state
  verdict := agrees.verdict
  channel := agrees.channel
  events := congrArg (events ++ ·) agrees.events
  tick := agrees.tick

theorem runTurns_agrees {step : Nat → σ → C → Turn C σ α} {step' : Nat → σ → D → Turn D σ α}
    (agrees : ∀ tick state c d, Like c d → (step tick state c).Agrees Like (step' tick state d))
    (wake? : σ → Option Nat) (horizon : Option Nat) (fuel tick : Nat) (state : σ) {c : C} {d : D}
    (like : Like c d) :
    (runTurns step wake? horizon fuel tick state c).Agrees Like
      (runTurns step' wake? horizon fuel tick state d) := by
  induction fuel generalizing tick state c d with
  | zero => exact ⟨rfl, rfl, like, rfl, rfl⟩
  | succ fuel ih =>
      obtain ⟨verdict, events, channel⟩ := agrees tick state c d like
      simp only [runTurns, verdict, events]
      split
      · apply Run.Agrees.after
        exact ih tick _ channel
      · split
        · apply Run.Agrees.after
          exact ih _ state channel
        · exact ⟨rfl, rfl, channel, rfl, rfl⟩
      · exact ⟨rfl, rfl, channel, rfl, rfl⟩

/-- No responder can tell channels apart that are alike. -/
theorem Responder.run_agrees [Channel C] [Channel D] (alike : Channel.Alike Like)
    (responder : Responder) (horizon : Option Nat) (fuel : Nat) (clock : Clock) (tick : Nat) {c : C}
    {d : D} (like : Like c d) :
    let progress := (responder.job c).run horizon fuel clock tick
    let progress' := (responder.job d).run horizon fuel clock tick
    progress.job.status = progress'.job.status ∧ progress.events = progress'.events := by
  have agrees : (runTurns (responder.turn clock) wake? horizon fuel tick {} c).Agrees Like
      (runTurns (responder.turn clock) wake? horizon fuel tick {} d) :=
    runTurns_agrees (fun tick post c d like => responder.turn_agrees alike clock tick post like)
      wake? horizon fuel tick {} like
  refine ⟨?_, agrees.events⟩
  simp only [job, Job.run]
  rw [agrees.state, agrees.verdict]

end

/-! Scripts and their scenarios -/

/-- What comes after the last line of a script, for ever. -/
def Script.afterwards (script : Script) : Arrival :=
  if script.live then .silence else .fault .closed

/-- The scenario that a script acts out, when nothing is added to it. -/
def Script.scenario (script : Script) : Scenario where
  prepared := script.prepared
  dialed := script.dialed
  preparing := script.preparing
  dialing := script.dialing
  arrivals n := if script.silent then .silence else script.arrivals.getD n script.afterwards
  sending n := script.sending.getD n .succeed
  closing n := script.closing.getD n .succeed

/-- A script that acts out a scenario. One that has fallen silent may differ in what it hides. -/
structure Script.Acts (script : Script) (scenario : Scenario) : Prop where
  prepared : script.prepared = scenario.prepared
  dialed : script.dialed = scenario.dialed
  preparing : script.preparing = scenario.preparing
  dialing : script.dialing = scenario.dialing
  heard : script.silent = false →
    ∀ n, scenario.arrivals n = script.arrivals.getD n script.afterwards
  silent : script.silent = true → scenario.arrivals 0 = .silence
  sending : ∀ n, scenario.sending n = script.sending.getD n .succeed
  closing : ∀ n, scenario.closing n = script.closing.getD n .succeed

namespace Script

theorem acts_scenario (script : Script) : script.Acts script.scenario where
  prepared := rfl
  dialed := rfl
  preparing := rfl
  dialing := rfl
  heard sound _ := if_neg (ne_true_of_eq_false sound)
  silent quiet := if_pos quiet
  sending _ := rfl
  closing _ := rfl

theorem getD_tail (lines : List α) (n : Nat) (last : α) :
    lines.tail.getD n last = lines.getD (n + 1) last := by
  cases lines with
  | nil => rfl
  | cons line lines => rfl

theorem getD_ne {lines : List α} {line last : α} (others : ∀ l ∈ lines, l ≠ line)
    (other : last ≠ line) (n : Nat) : lines.getD n last ≠ line := by
  induction lines generalizing n with
  | nil => exact other
  | cons first lines ih =>
      obtain ⟨here, later⟩ := List.forall_mem_cons.mp others
      cases n with
      | zero => exact here
      | succ n => exact ih later n

theorem getD_zero (cues : List Cue) : cues.getD 0 .succeed = Cue.next cues := by
  cases cues with
  | nil => rfl
  | cons cue cues => rfl

theorem Acts.hear {script : Script} {scenario : Scenario} (acts : script.Acts scenario)
    (sound : script.silent = false) :
    Acts { script with arrivals := script.arrivals.tail } scenario.hear where
  prepared := acts.prepared
  dialed := acts.dialed
  preparing := acts.preparing
  dialing := acts.dialing
  heard _ n := (acts.heard sound (n + 1)).trans (getD_tail ..).symm
  silent quiet := absurd (sound.symm.trans quiet) Bool.false_ne_true
  sending := acts.sending
  closing := acts.closing

theorem acts_receive {script : Script} {scenario : Scenario} (acts : script.Acts scenario) :
    script.receive.Agrees Acts scenario.receive := by
  unfold receive
  split
  · rename_i quiet
    rw [Scenario.receive_of_silence (acts.silent quiet)]
    exact ⟨rfl, rfl, acts⟩
  · rename_i sound
    have sound : script.silent = false := Bool.eq_false_iff.mpr sound
    have first := acts.heard sound 0
    have hear := acts.hear sound
    cases lines : script.arrivals with
    | nil =>
        rw [lines, List.getD_nil, afterwards] at first
        cases live : script.live with
        | true =>
            rw [live] at first
            rw [Scenario.receive_of_silence first]
            exact ⟨rfl, rfl, acts⟩
        | false =>
            rw [live] at first
            rw [Scenario.receive_of_heard first Arrival.noConfusion]
            rw [lines, List.tail_nil, ← lines] at hear
            exact ⟨rfl, rfl, hear⟩
    | cons arrival arrivals =>
        rw [lines, List.getD_cons_zero] at first
        rw [lines, List.tail_cons] at hear
        cases arrival with
        | datagram bytes =>
            rw [Scenario.receive_of_heard first Arrival.noConfusion]
            exact ⟨rfl, rfl, hear⟩
        | fault fault =>
            rw [Scenario.receive_of_heard first Arrival.noConfusion]
            exact ⟨rfl, rfl, hear⟩
        | silence =>
            rw [Scenario.receive_of_silence first]
            refine ⟨rfl, rfl, ?_⟩
            exact
              { acts with
                heard := fun sound => absurd sound Bool.false_ne_true.symm
                silent := fun _ => first }
        | crash =>
            rw [Scenario.receive_of_heard first Arrival.noConfusion]
            exact ⟨rfl, rfl, hear⟩

theorem alike_acts : Channel.Alike Acts where
  prepare endpoint script scenario acts := by
    refine ⟨?_, rfl, ?_⟩
    · show (Cue.next script.preparing).reaction = (Cue.next scenario.preparing).reaction
      rw [acts.preparing]
    · exact
        { acts with
          prepared := by
            show (_ || script.prepared) = (_ || scenario.prepared)
            rw [acts.preparing, acts.prepared]
          preparing := congrArg List.tail acts.preparing }
  dial endpoint script scenario acts := by
    refine ⟨?_, rfl, ?_⟩
    · show (Cue.next script.dialing).reaction = (Cue.next scenario.dialing).reaction
      rw [acts.dialing]
    · exact
        { acts with
          dialed := by
            show (_ || script.dialed) = (_ || scenario.dialed)
            rw [acts.dialing, acts.dialed]
          dialing := congrArg List.tail acts.dialing }
  send bytes script scenario acts := by
    refine ⟨?_, rfl, ?_⟩
    · show (Cue.next script.sending).reaction = (scenario.sending 0).reaction
      rw [acts.sending, getD_zero]
    · exact
        { acts with
          sending := fun n => (acts.sending (n + 1)).trans (getD_tail ..).symm }
  receive script scenario acts := acts_receive acts
  close script scenario acts := by
    refine ⟨?_, rfl, ?_⟩
    · show (Cue.next script.closing).reaction = (scenario.closing 0).reaction
      rw [acts.closing, getD_zero]
    · exact
        { acts with
          prepared := rfl
          dialed := rfl
          closing := fun n => (acts.closing (n + 1)).trans (getD_tail ..).symm }
  isPrepared script scenario acts := acts.prepared
  isDialed script scenario acts := acts.dialed

/-- No line brings its caller down. -/
structure Calm (script : Script) : Prop where
  preparing : ∀ cue ∈ script.preparing, cue ≠ .crash
  dialing : ∀ cue ∈ script.dialing, cue ≠ .crash
  arrivals : ∀ arrival ∈ script.arrivals, arrival ≠ .crash
  sending : ∀ cue ∈ script.sending, cue ≠ .crash
  closing : ∀ cue ∈ script.closing, cue ≠ .crash

theorem Calm.scenario {script : Script} (calm : script.Calm) : script.scenario.Calm where
  preparing := calm.preparing
  dialing := calm.dialing
  arrivals n := by
    show (if script.silent then _ else _) ≠ _
    split
    · exact Arrival.noConfusion
    · apply getD_ne calm.arrivals
      unfold afterwards
      split <;> exact Arrival.noConfusion
  sending n := getD_ne calm.sending Cue.noConfusion n
  closing n := getD_ne calm.closing Cue.noConfusion n

section

variable (script : Script) {responder : Responder} {clock : Clock} {tick : Nat} {exit : Exit}
  {seen : List Event}

/-- What a responder does on a script is what it does in the scenario of that script. -/
theorem run_scenario (responder : Responder) (fuel : Nat) (clock : Clock) (tick : Nat) :
    let progress := (responder.job script).run none fuel clock tick
    let progress' := (responder.job script.scenario).run none fuel clock tick
    progress.job.status = progress'.job.status ∧ progress.events = progress'.events :=
  responder.run_agrees alike_acts none fuel clock tick script.acts_scenario

theorem ends_of_scenario (ends : responder.Ends clock tick script.scenario exit seen) :
    responder.Ends clock tick script exit seen := by
  obtain ⟨turns, ended⟩ := ends
  refine ⟨turns, fun fuel enough => ?_⟩
  obtain ⟨status, events⟩ := script.run_scenario responder fuel clock tick
  simp only [status, events]
  exact ended fuel enough

theorem endures_of_scenario {arrivals : Nat → Arrival} {course : Nat → List Event}
    (endures : responder.Endures clock tick script.scenario arrivals course) :
    responder.Endures clock tick script arrivals course := by
  intro fuel
  obtain ⟨status, events⟩ := script.run_scenario responder fuel clock tick
  simp only [status, events]
  exact endures fuel

theorem shows_of_scenario (shows : responder.Shows clock tick script.scenario seen) :
    responder.Shows clock tick script seen := by
  obtain ⟨turns, shown⟩ := shows
  refine ⟨turns, fun fuel enough => ?_⟩
  obtain ⟨-, events⟩ := script.run_scenario responder fuel clock tick
  rw [events]
  exact shown fuel enough

/-- The course of a responder on a script to which nothing is added, and in which no line brings it
down. After the last line a live script waits, and any other one is closed. -/
theorem course_of_script (responder : Responder) (clock : Clock) (tick : Nat)
    (calm : script.Calm) :
    ∃ connecting turn, responder.connector.BringsUp tick script.scenario connecting ∧
      let arrivals := script.scenario.arrivals
      let seen n := connecting ++ responder.role.greeting ++
        responder.rounds (responder.replies clock turn arrivals) arrivals n
      (∀ n exit, responder.EndsWith arrivals n exit →
        responder.Ends clock tick script exit (seen (n + 1) ++ [.call .close])) ∧
      ((∀ n exit, ¬ responder.EndsWith arrivals n exit) →
        responder.Endures clock tick script arrivals seen) ∧
      ∀ n, (∀ i < n, arrivals i ≠ .silence) → (∀ i < n, responder.exit? arrivals i = none) →
        responder.Shows clock tick script (seen n) := by
  obtain ⟨connecting, turn, up, ends, endures, shows⟩ :=
    responder.course clock tick calm.scenario
  refine ⟨connecting, turn, up, ?ends, ?endures, ?shows⟩
  case ends => exact fun n exit ended => script.ends_of_scenario (ends n exit ended)
  case endures => exact fun endless => script.endures_of_scenario (endures endless)
  case shows => exact fun n heard goesOn => script.shows_of_scenario (shows n heard goesOn)

end

end Script

end Heartbeat
