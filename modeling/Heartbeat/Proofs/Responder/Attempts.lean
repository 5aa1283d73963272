import Heartbeat.Proofs.Responder.Turn
import Heartbeat.Responder.Connector

/-!
Connecting as a row of attempts, on any channel whatsoever. An attempt takes one of four shapes,
the failed ones are followed by a pause, and only one that brings the channel up is the last.
-/

namespace Heartbeat

/-- How an attempt to connect turns out. -/
inductive Trial where
  | unprepared
  | undialed
  | unmarked
  | joined
deriving DecidableEq

def Trial.isFailed : Trial → Bool
  | .unprepared => true
  | .undialed => true
  | _ => false

/-! Calls -/

def called (events : List Event) : List Call :=
  events.filterMap Event.call?

@[simp] theorem called_append (events more : List Event) :
    called (events ++ more) = called events ++ called more :=
  List.filterMap_append

@[simp] theorem called_nil : called [] = [] := rfl

@[simp] theorem called_call (call : Call) (events : List Event) :
    called (.call call :: events) = call :: called events := rfl

@[simp] theorem called_ofAnswer (call : Call) (notices : List Notice) :
    called (Event.ofAnswer call notices) = [call] := by
  have quiet : called (notices.map Event.notice) = [] := by
    induction notices with
    | nil => rfl
    | cons notice notices ih => exact ih
  rw [Event.ofAnswer, called_call, quiet]

def Call.isSleep : Call → Bool
  | .sleep _ => true
  | _ => false

namespace Connector

/-- The calls of one pause. A pause that is slept through is seen on the clock only. -/
def pauses (connector : Connector) : List Call :=
  match connector.pacing with
  | .noted => [.sleep connector.delay]
  | _ => []

def lag (connector : Connector) : Nat :=
  match connector.pacing with
  | .slept => connector.delay
  | _ => 0

def calls (connector : Connector) : Trial → List Call
  | .unprepared => [.prepare connector.endpoint, .close] ++ connector.pauses
  | .undialed =>
      [.prepare connector.endpoint, .dial connector.endpoint, .close] ++ connector.pauses
  | .unmarked => [.prepare connector.endpoint, .dial connector.endpoint]
  | .joined => [.prepare connector.endpoint, .dial connector.endpoint]

section

variable (connector : Connector) (call : Call) (what : String) {answer : Answer C Reaction}

theorem advance_of_done (failed : UInt64) (stage next : Stage) (done : answer.result = .done) :
    connector.advance call what ⟨failed, stage⟩ next answer =
      ⟨.go ⟨failed, next⟩, answer.state, Event.ofAnswer call answer.notices⟩ := by
  simp only [advance, done]
  rfl

theorem advance_of_failed (failed : UInt64) (stage next : Stage) {fault : ChannelFault}
    (refused : answer.result = .failed fault) :
    ∃ events, connector.advance call what ⟨failed, stage⟩ next answer =
        ⟨.go ⟨failed + 1, .discarding⟩, answer.state, events⟩ ∧ called events = [call] := by
  simp only [advance, refused]
  exact ⟨_, rfl, by rw [called_append, called_ofAnswer]; rfl⟩

theorem advance_of_crashed (attempt : Attempt) (next : Stage)
    (crashed : answer.result = .crashed) :
    connector.advance call what attempt next answer =
      ⟨.crashed, answer.state, Event.ofAnswer call answer.notices⟩ := by
  simp only [advance, crashed]

end

end Connector

section

variable [Channel C] (endpoint : Endpoint)

/-- An attempt on a channel that is down, and the channel after it. A failed attempt ends with a
close, of which it does not matter whether it fails. -/
inductive Tried (c : C) : Trial → C → Prop
  | unprepared (down : Channel.isDialed c = false)
      (failed : (Channel.prepare endpoint c).result = .failed fault)
      (closed : (Channel.close (Channel.prepare endpoint c).state).result ≠ .crashed) :
      Tried c .unprepared (Channel.close (Channel.prepare endpoint c).state).state
  | undialed (down : Channel.isDialed c = false)
      (prepared : (Channel.prepare endpoint c).result = .done)
      (failed : (Channel.dial endpoint (Channel.prepare endpoint c).state).result = .failed fault)
      (closed : (Channel.close
        (Channel.dial endpoint (Channel.prepare endpoint c).state).state).result ≠ .crashed) :
      Tried c .undialed
        (Channel.close (Channel.dial endpoint (Channel.prepare endpoint c).state).state).state
  | unmarked (down : Channel.isDialed c = false)
      (prepared : (Channel.prepare endpoint c).result = .done)
      (dialed : (Channel.dial endpoint (Channel.prepare endpoint c).state).result = .done)
      (unmarked : Channel.isDialed
        (Channel.dial endpoint (Channel.prepare endpoint c).state).state = false) :
      Tried c .unmarked (Channel.dial endpoint (Channel.prepare endpoint c).state).state
  | joined (down : Channel.isDialed c = false)
      (prepared : (Channel.prepare endpoint c).result = .done)
      (dialed : (Channel.dial endpoint (Channel.prepare endpoint c).state).result = .done)
      (marked : Channel.isDialed
        (Channel.dial endpoint (Channel.prepare endpoint c).state).state = true) :
      Tried c .joined (Channel.dial endpoint (Channel.prepare endpoint c).state).state

inductive Tries : C → List Trial → C → Prop
  | none : Tries c [] c
  | next (first : Tried endpoint c trial c') (others : Tries c' trials c'') :
      Tries c (trial :: trials) c''

/-- The calls of an attempt of which the last one brings its caller down. -/
inductive Falls (c : C) : List Call → Prop
  | preparing (down : Channel.isDialed c = false)
      (crashed : (Channel.prepare endpoint c).result = .crashed) :
      Falls c [.prepare endpoint]
  | dialing (down : Channel.isDialed c = false)
      (prepared : (Channel.prepare endpoint c).result = .done)
      (crashed : (Channel.dial endpoint (Channel.prepare endpoint c).state).result = .crashed) :
      Falls c [.prepare endpoint, .dial endpoint]
  | discardingUnprepared (down : Channel.isDialed c = false)
      (failed : (Channel.prepare endpoint c).result = .failed fault)
      (crashed : (Channel.close (Channel.prepare endpoint c).state).result = .crashed) :
      Falls c [.prepare endpoint, .close]
  | discardingUndialed (down : Channel.isDialed c = false)
      (prepared : (Channel.prepare endpoint c).result = .done)
      (failed : (Channel.dial endpoint (Channel.prepare endpoint c).state).result = .failed fault)
      (crashed : (Channel.close
        (Channel.dial endpoint (Channel.prepare endpoint c).state).state).result = .crashed) :
      Falls c [.prepare endpoint, .dial endpoint, .close]

variable {endpoint} {c c' c'' : C} {trial : Trial} {trials more : List Trial}

theorem Tried.down (tried : Tried endpoint c trial c') : Channel.isDialed c = false := by
  cases tried <;> assumption

theorem Falls.down {calls : List Call} (falls : Falls endpoint c calls) :
    Channel.isDialed c = false := by
  cases falls <;> assumption

theorem tried_or_falls (endpoint : Endpoint) (down : Channel.isDialed c = false) :
    (∃ trial c', Tried endpoint c trial c') ∨ ∃ calls, Falls endpoint c calls := by
  cases prepared : (Channel.prepare endpoint c).result with
  | crashed => exact .inr ⟨_, .preparing down prepared⟩
  | failed fault =>
      by_cases closed : (Channel.close (Channel.prepare endpoint c).state).result = .crashed
      · exact .inr ⟨_, .discardingUnprepared down prepared closed⟩
      · exact .inl ⟨_, _, .unprepared down prepared closed⟩
  | done =>
      cases dialed : (Channel.dial endpoint (Channel.prepare endpoint c).state).result with
      | crashed => exact .inr ⟨_, .dialing down prepared dialed⟩
      | failed fault =>
          by_cases closed : (Channel.close
            (Channel.dial endpoint (Channel.prepare endpoint c).state).state).result = .crashed
          · exact .inr ⟨_, .discardingUndialed down prepared dialed closed⟩
          · exact .inl ⟨_, _, .undialed down prepared dialed closed⟩
      | done =>
          cases marked : Channel.isDialed
            (Channel.dial endpoint (Channel.prepare endpoint c).state).state with
          | false => exact .inl ⟨_, _, .unmarked down prepared dialed marked⟩
          | true => exact .inl ⟨_, _, .joined down prepared dialed marked⟩

namespace Tries

theorem concat (tries : Tries endpoint c trials c') (last : Tried endpoint c' trial c'') :
    Tries endpoint c (trials ++ [trial]) c'' := by
  induction tries with
  | none => exact .next last .none
  | next first _ ih => exact .next first (ih last)

/-- Attempts go on until the channel is up or their caller falls, or for as long as one likes. -/
theorem exists_tries (endpoint : Endpoint) (c : C) (n : Nat) :
    ∃ trials c', Tries endpoint c trials c' ∧
      (Channel.isDialed c' = true ∨ (∃ calls, Falls endpoint c' calls) ∨ n ≤ trials.length) := by
  induction n with
  | zero => exact ⟨[], c, .none, .inr (.inr (Nat.zero_le _))⟩
  | succ n ih =>
      obtain ⟨trials, c', tries, up | falls | long⟩ := ih
      · exact ⟨trials, c', tries, .inl up⟩
      · exact ⟨trials, c', tries, .inr (.inl falls)⟩
      · cases up : Channel.isDialed c' with
        | true => exact ⟨trials, c', tries, .inl up⟩
        | false =>
            obtain ⟨trial, c'', tried⟩ | falls := tried_or_falls endpoint up
            · refine ⟨trials ++ [trial], c'', tries.concat tried, .inr (.inr ?_)⟩
              rw [List.length_append]
              exact Nat.succ_le_succ long
            · exact ⟨trials, c', tries, .inr (.inl falls)⟩

end Tries

/-! Attempts as turns -/

namespace Connector

variable (connector : Connector)

/-- A row of turns of a connector that has all the time it wants. -/
abbrev Makes (turns : Nat) (start : Standing C Attempt) (events : List Event)
    (finish : Standing C Attempt) : Prop :=
  Goes connector.step wake? none turns start events finish

theorem makes_pause (tick : Nat) (failed : UInt64) (c : C) :
    ∃ turns events, connector.Makes turns ⟨tick, ⟨failed, .pausing⟩, c⟩ events
        ⟨tick + connector.lag, ⟨failed, .checking⟩, c⟩ ∧ called events = connector.pauses := by
  unfold lag pauses
  cases pacing : connector.pacing with
  | noted => exact ⟨1, _, Goes.one (by simp only [step, pause, pacing]; rfl), rfl⟩
  | skipped => exact ⟨1, _, Goes.one (by simp only [step, pause, pacing]; rfl), rfl⟩
  | slept =>
      have asleep : connector.Makes 1 ⟨tick, ⟨failed, .pausing⟩, c⟩ []
          ⟨tick, ⟨failed, .asleep (tick + connector.delay)⟩, c⟩ :=
        Goes.one (by simp only [step, pause, pacing]; rfl)
      have woken (later : Nat) (due : tick + connector.delay ≤ later) :
          connector.Makes 1 ⟨later, ⟨failed, .asleep (tick + connector.delay)⟩, c⟩ []
            ⟨later, ⟨failed, .checking⟩, c⟩ :=
        Goes.one (by simp only [step, if_pos due]; rfl)
      by_cases due : tick + connector.delay ≤ tick
      · have atOnce : tick + connector.delay = tick := by omega
        have row := asleep.trans (woken tick due)
        simp only [atOnce] at row ⊢
        exact ⟨2, _, row, rfl⟩
      · have later : max tick (tick + connector.delay) = tick + connector.delay := by omega
        have slept : connector.Makes 2 ⟨tick, ⟨failed, .asleep (tick + connector.delay)⟩, c⟩
            ([] ++ []) ⟨max tick (tick + connector.delay), ⟨failed, .checking⟩, c⟩ :=
          .sleep (by simp only [step, if_neg due]) rfl rfl (woken _ (Nat.le_max_right ..))
        rw [later] at slept
        exact ⟨3, _, asleep.trans slept, rfl⟩

theorem makes_discard (tick : Nat) (failed : UInt64) {c : C}
    (closed : (Channel.close c).result ≠ .crashed) :
    ∃ turns events, connector.Makes turns ⟨tick, ⟨failed, .discarding⟩, c⟩ events
        ⟨tick + connector.lag, ⟨failed, .checking⟩, (Channel.close c).state⟩ ∧
      called events = .close :: connector.pauses := by
  have discarded : ∃ events, connector.step tick ⟨failed, .discarding⟩ c =
      ⟨.go ⟨failed, .pausing⟩, (Channel.close c).state, events⟩ ∧ called events = [.close] := by
    simp only [step, discard]
    cases result : (Channel.close c).result with
    | done => exact ⟨_, rfl, called_ofAnswer ..⟩
    | failed fault => exact ⟨_, rfl, by rw [called_append, called_ofAnswer]; rfl⟩
    | crashed => exact absurd result closed
  obtain ⟨events, made, close⟩ := discarded
  obtain ⟨turns, more, paused, pauses⟩ := connector.makes_pause tick failed (Channel.close c).state
  refine ⟨_, _, (Goes.one made).trans paused, ?_⟩
  rw [called_append, close, pauses]
  rfl

theorem step_of_down (tick : Nat) (failed : UInt64) {c : C} (down : Channel.isDialed c = false) :
    connector.step tick ⟨failed, .checking⟩ c =
      connector.advance (.prepare connector.endpoint) "initialize" ⟨failed, .checking⟩ .dialing
        (Channel.prepare connector.endpoint c) := by
  simp only [step, down, Bool.false_eq_true, if_false]

theorem step_of_dialing (tick : Nat) (failed : UInt64) (c : C) :
    connector.step tick ⟨failed, .dialing⟩ c =
      connector.advance (.dial connector.endpoint) "dial" ⟨failed, .dialing⟩ .checking
        (Channel.dial connector.endpoint c) := rfl

theorem step_of_up (tick : Nat) (failed : UInt64) {c : C} (up : Channel.isDialed c = true) :
    connector.step tick ⟨failed, .checking⟩ c =
      ⟨.finished failed, c, [.notice (connector.ready failed)]⟩ := by
  simp only [step, up, if_true]

/-- A call that is refused leads to a close and a pause, and is counted. -/
theorem makes_refusal {tick : Nat} {failed : UInt64} {stage : Stage} {c c' : C}
    {events : List Event} {call : Call}
    (made : connector.step tick ⟨failed, stage⟩ c = ⟨.go ⟨failed + 1, .discarding⟩, c', events⟩)
    (refused : called events = [call]) (closed : (Channel.close c').result ≠ .crashed) :
    ∃ turns more, connector.Makes (turns + 1) ⟨tick, ⟨failed, stage⟩, c⟩ more
        ⟨tick + connector.lag, ⟨failed + 1, .checking⟩, (Channel.close c').state⟩ ∧
      called more = [call, .close] ++ connector.pauses := by
  obtain ⟨turns, others, discarded, close⟩ := connector.makes_discard tick (failed + 1) closed
  have row := (Goes.one made).trans discarded
  rw [Nat.add_comm] at row
  refine ⟨turns, _, row, ?_⟩
  rw [called_append, refused, close]
  rfl

theorem makes_prepare (tick : Nat) (failed : UInt64) {c : C} (down : Channel.isDialed c = false)
    (prepared : (Channel.prepare connector.endpoint c).result = .done) :
    ∃ events, connector.Makes 1 ⟨tick, ⟨failed, .checking⟩, c⟩ events
        ⟨tick, ⟨failed, .dialing⟩, (Channel.prepare connector.endpoint c).state⟩ ∧
      called events = [.prepare connector.endpoint] := by
  have made := connector.advance_of_done (.prepare connector.endpoint) "initialize" failed
    .checking .dialing prepared
  rw [← connector.step_of_down tick failed down] at made
  exact ⟨_, Goes.one made, called_ofAnswer ..⟩

theorem makes_dial (tick : Nat) (failed : UInt64) {c : C} (down : Channel.isDialed c = false)
    (prepared : (Channel.prepare connector.endpoint c).result = .done)
    (dialed : (Channel.dial connector.endpoint
      (Channel.prepare connector.endpoint c).state).result = .done) :
    ∃ events, connector.Makes 2 ⟨tick, ⟨failed, .checking⟩, c⟩ events
        ⟨tick, ⟨failed, .checking⟩, (Channel.dial connector.endpoint
          (Channel.prepare connector.endpoint c).state).state⟩ ∧
      called events = [.prepare connector.endpoint, .dial connector.endpoint] := by
  obtain ⟨events, row, prepare⟩ := connector.makes_prepare tick failed down prepared
  have made := connector.advance_of_done (.dial connector.endpoint) "dial" failed .dialing
    .checking dialed
  refine ⟨_, row.trans (Goes.one made), ?_⟩
  rw [called_append, prepare, called_ofAnswer]
  rfl

variable {connector} {c c' : C}

theorem makes_of_tried (tried : Tried connector.endpoint c trial c') (tick : Nat)
    (failed : UInt64) :
    ∃ turns events, connector.Makes (turns + 1) ⟨tick, ⟨failed, .checking⟩, c⟩ events
        ⟨tick + trial.isFailed.toNat * connector.lag,
          ⟨failed + .ofNat trial.isFailed.toNat, .checking⟩, c'⟩ ∧
      called events = connector.calls trial := by
  have none : failed + .ofNat 0 = failed := UInt64.add_zero failed
  cases tried with
  | unprepared down refused closed =>
      obtain ⟨first, made, prepare⟩ := connector.advance_of_failed (.prepare connector.endpoint)
        "initialize" failed .checking .dialing refused
      rw [← connector.step_of_down tick failed down] at made
      simp only [Trial.isFailed, Bool.toNat_true, Nat.one_mul]
      exact connector.makes_refusal made prepare closed
  | undialed down prepared refused closed =>
      obtain ⟨before, row, prepare⟩ := connector.makes_prepare tick failed down prepared
      obtain ⟨first, made, dial⟩ := connector.advance_of_failed (.dial connector.endpoint)
        "dial" failed .dialing .checking refused
      rw [← connector.step_of_dialing tick failed] at made
      obtain ⟨turns, more, row', others⟩ := connector.makes_refusal made dial closed
      simp only [Trial.isFailed, Bool.toNat_true, Nat.one_mul]
      refine ⟨1 + turns, _, Nat.add_assoc 1 turns 1 ▸ row.trans row', ?_⟩
      rw [called_append, prepare, others]
      rfl
  | unmarked down prepared dialed unmarked =>
      obtain ⟨events, row, made⟩ := connector.makes_dial tick failed down prepared dialed
      simp only [Trial.isFailed, Bool.toNat_false, Nat.zero_mul, none]
      exact ⟨1, events, row, made⟩
  | joined down prepared dialed marked =>
      obtain ⟨events, row, made⟩ := connector.makes_dial tick failed down prepared dialed
      simp only [Trial.isFailed, Bool.toNat_false, Nat.zero_mul, none]
      exact ⟨1, events, row, made⟩

def failures (trials : List Trial) : Nat :=
  trials.countP Trial.isFailed

theorem failures_cons (trial : Trial) (trials : List Trial) :
    failures (trial :: trials) = trial.isFailed.toNat + failures trials := by
  rw [failures, List.countP_cons, failures]
  cases trial.isFailed <;> simp [Nat.add_comm]

theorem makes_of_tries (tries : Tries connector.endpoint c trials c') (tick : Nat)
    (failed : UInt64) :
    ∃ turns events, trials.length ≤ turns ∧
      connector.Makes turns ⟨tick, ⟨failed, .checking⟩, c⟩ events
        ⟨tick + failures trials * connector.lag, ⟨failed + .ofNat (failures trials), .checking⟩,
          c'⟩ ∧
      called events = trials.flatMap connector.calls := by
  induction tries generalizing tick failed with
  | none => exact ⟨0, [], Nat.le_refl 0, by simpa [failures] using Goes.here, rfl⟩
  | @next _ trial _ trials _ first _ ih =>
      obtain ⟨turns, events, row, made⟩ := makes_of_tried first tick failed
      obtain ⟨turns', more, long, row', others⟩ := ih (tick + trial.isFailed.toNat * connector.lag)
        (failed + .ofNat trial.isFailed.toNat)
      refine ⟨turns + 1 + turns', events ++ more, ?_, ?_, ?_⟩
      · rw [List.length_cons]
        omega
      · rw [failures_cons, Nat.add_mul, ← Nat.add_assoc, UInt64.ofNat_add, ← UInt64.add_assoc]
        exact row.trans row'
      · rw [called_append, made, others, List.flatMap_cons]

theorem step_of_closing_crash (tick : Nat) (failed : UInt64) {c : C}
    (crashed : (Channel.close c).result = .crashed) :
    connector.step tick ⟨failed, .discarding⟩ c =
      ⟨.crashed, (Channel.close c).state, Event.ofAnswer .close (Channel.close c).notices⟩ := by
  simp only [step, discard, crashed]

/-- An attempt that brings its caller down makes its last call, and no turn after it. -/
theorem makes_of_falls {calls : List Call} (falls : Falls connector.endpoint c calls)
    (tick : Nat) (failed : UInt64) :
    ∃ turns before finish channel last,
      connector.Makes turns ⟨tick, ⟨failed, .checking⟩, c⟩ before finish ∧
      connector.step finish.tick finish.state finish.channel = ⟨.crashed, channel, last⟩ ∧
      called (before ++ last) = calls := by
  cases falls with
  | preparing down crashed =>
      have made := connector.advance_of_crashed (.prepare connector.endpoint) "initialize"
        ⟨failed, .checking⟩ .dialing crashed
      rw [← connector.step_of_down tick failed down] at made
      exact ⟨0, [], _, _, _, .here, made, called_ofAnswer ..⟩
  | dialing down prepared crashed =>
      obtain ⟨before, row, prepare⟩ := connector.makes_prepare tick failed down prepared
      refine ⟨1, before, _, _, _, row, connector.advance_of_crashed _ _ _ _ crashed, ?_⟩
      rw [called_append, prepare, called_ofAnswer]
      rfl
  | discardingUnprepared down refused crashed =>
      obtain ⟨first, made, prepare⟩ := connector.advance_of_failed (.prepare connector.endpoint)
        "initialize" failed .checking .dialing refused
      rw [← connector.step_of_down tick failed down] at made
      refine ⟨1, first, _, _, _, Goes.one made, step_of_closing_crash _ _ crashed, ?_⟩
      rw [called_append, prepare, called_ofAnswer]
      rfl
  | discardingUndialed down prepared refused crashed =>
      obtain ⟨before, row, prepare⟩ := connector.makes_prepare tick failed down prepared
      obtain ⟨first, made, dial⟩ := connector.advance_of_failed (.dial connector.endpoint)
        "dial" failed .dialing .checking refused
      rw [← connector.step_of_dialing tick failed] at made
      refine ⟨2, before ++ first, _, _, _, row.trans (Goes.one made),
        step_of_closing_crash _ _ crashed, ?_⟩
      rw [called_append, called_append, prepare, dial, called_ofAnswer]
      rfl

/-! Runs -/

/-- A run that returns: it has made these attempts, the channel is up, and the failed attempts are
counted. -/
structure Returns (connector : Connector) (c : C) (trials : List Trial)
    (run : Run C Attempt UInt64) : Prop where
  tries : Tries connector.endpoint c trials run.channel
  up : Channel.isDialed run.channel = true
  verdict : run.verdict = .finished (.ofNat (failures trials))
  made : called run.events = trials.flatMap connector.calls
  tick : run.tick = failures trials * connector.lag

theorem returned_of_run {events : List Event}
    (tries : Tries connector.endpoint c trials c') (up : Channel.isDialed c' = true)
    (made : called events = trials.flatMap connector.calls)
    (ran : connector.connect fuel c =
      ⟨state, .finished (0 + .ofNat (failures trials)), c', events ++ [.notice notice],
        0 + failures trials * connector.lag⟩) :
    connector.Returns c trials (connector.connect fuel c) := by
  rw [ran]
  refine ⟨tries, up, by rw [UInt64.zero_add], ?_, Nat.zero_add _⟩
  rw [called_append, made]
  exact List.append_nil _

theorem returns_of_tries (tries : Tries connector.endpoint c trials c')
    (up : Channel.isDialed c' = true) :
    ∃ turns, ∀ fuel > turns, connector.Returns c trials (connector.connect fuel c) := by
  obtain ⟨turns, events, -, row, made⟩ := makes_of_tries tries 0 0
  refine ⟨turns, fun fuel enough => ?_⟩
  exact returned_of_run tries up made (row.run_finished (connector.step_of_up _ _ up) enough)

/-- A run that does not return has made whole attempts and a part of one more. -/
structure Strays (connector : Connector) (c : C) (trials : List Trial)
    (run : Run C Attempt UInt64) : Prop where
  unfinished : ∀ failed, run.verdict ≠ .finished failed
  begun : ∃ c' last, Tries connector.endpoint c trials c' ∧
    (last = [] ∨ Falls connector.endpoint c' last) ∧
    called run.events <+: trials.flatMap connector.calls ++ last

theorem returns_or_strays (connector : Connector) (c : C) (fuel : Nat) :
    ∃ trials, connector.Returns c trials (connector.connect fuel c) ∨
      connector.Strays c trials (connector.connect fuel c) := by
  -- Each attempt takes a turn at least, so that as many as there is fuel use it up.
  obtain ⟨trials, c', tries, next⟩ := Tries.exists_tries connector.endpoint c fuel
  obtain ⟨turns, events, long, row, made⟩ := makes_of_tries tries 0 0
  refine ⟨trials, ?_⟩
  have short {turns : Nat} {events : List Event} {finish : Standing C Attempt} {last : List Call}
      (row : connector.Makes turns ⟨0, {}, c⟩ events finish) (few : fuel ≤ turns)
      (made : called events <+: trials.flatMap connector.calls ++ last)
      (begun : last = [] ∨ Falls connector.endpoint c' last) :
      connector.Strays c trials (connector.connect fuel c) := by
    obtain ⟨stop, seen, part, ran⟩ := row.run_short few
    rw [connect, ran]
    exact ⟨nofun, c', last, tries, begun, (part.filterMap _).trans made⟩
  have whole : called events <+: trials.flatMap connector.calls ++ [] := by
    rw [made]
    exact List.prefix_append ..
  by_cases few : fuel ≤ turns
  · exact .inr (short row few whole (.inl rfl))
  have enough : turns < fuel := Nat.lt_of_not_le few
  obtain up | ⟨calls, falls⟩ | long' := next
  · have ran := row.run_finished (connector.step_of_up _ _ up) enough
    exact .inl (returned_of_run tries up made ran)
  · obtain ⟨turns', before, finish, channel, last, row', crashed, others⟩ :=
      makes_of_falls falls (0 + failures trials * connector.lag) (0 + .ofNat (failures trials))
    have more : called (events ++ before ++ last) = trials.flatMap connector.calls ++ calls := by
      rw [List.append_assoc, called_append, made, others]
    by_cases few' : fuel ≤ turns + turns'
    · refine .inr (short (row.trans row') few' ?_ (.inr falls))
      rw [← more, called_append (events ++ before)]
      exact List.prefix_append ..
    · right
      rw [connect, (row.trans row').run_crashed crashed (Nat.lt_of_not_le few')]
      exact ⟨nofun, c', calls, tries, .inr falls, more ▸ List.prefix_rfl⟩
  · exact absurd (Nat.le_trans long' long) few

end Connector

end

end Heartbeat
