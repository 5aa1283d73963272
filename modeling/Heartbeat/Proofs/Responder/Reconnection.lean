import Heartbeat.Proofs.Channel.Prospects
import Heartbeat.Proofs.Responder.Attempts

/-!
The law of connecting: which calls a connector makes, each in its place, what a return tells, and
when there is one.
-/

namespace Heartbeat

/-! What calls do to a channel -/

section

variable [Channel C]

def Call.apply (call : Call) (c : C) : C :=
  match call with
  | .prepare endpoint => (Channel.prepare endpoint c).state
  | .dial endpoint => (Channel.dial endpoint c).state
  | .receive => (Channel.receive c).state
  | .send bytes => (Channel.send bytes c).state
  | .close => (Channel.close c).state
  | .sleep _ => c

def Call.reaction? (call : Call) (c : C) : Option Reaction :=
  match call with
  | .prepare endpoint => some (Channel.prepare endpoint c).result
  | .dial endpoint => some (Channel.dial endpoint c).result
  | .send bytes => some (Channel.send bytes c).result
  | .close => some (Channel.close c).result
  | .receive => none
  | .sleep _ => none

/-- The channel that is left by calls. -/
def replay (calls : List Call) (c : C) : C :=
  calls.foldl (fun c call => call.apply c) c

@[simp] theorem replay_concat (calls : List Call) (call : Call) (c : C) :
    replay (calls ++ [call]) c = call.apply (replay calls c) := by
  simp only [replay, List.foldl_append, List.foldl_cons, List.foldl_nil]

/-- The last one of these calls, and how it ended. -/
def Ended (c : C) (calls : List Call) (call : Call) (reaction : Reaction) : Prop :=
  ∃ earlier, calls = earlier ++ [call] ∧ call.reaction? (replay earlier c) = some reaction

theorem ended_concat {c : C} {calls : List Call} {call : Call} {reaction : Reaction}
    (reacted : call.reaction? (replay calls c) = some reaction) :
    Ended c (calls ++ [call]) call reaction :=
  ⟨calls, rfl, reacted⟩

end

/-- Each of these calls is good after the ones before it. -/
def Throughout (good : List Call → Call → Prop) (calls : List Call) : Prop :=
  ∀ before call after, calls = before ++ call :: after → good before call

theorem throughout_nil (good : List Call → Call → Prop) : Throughout good [] := by
  intro before call after split
  exact absurd split.symm (by simp)

theorem Throughout.concat {good : List Call → Call → Prop} {calls : List Call} {call : Call}
    (earlier : Throughout good calls) (last : good calls call) :
    Throughout good (calls ++ [call]) := by
  intro before found after split
  obtain rfl | ⟨after, final, rfl⟩ := List.eq_nil_or_concat after
  · obtain ⟨same, same'⟩ := List.append_inj' split rfl
    obtain rfl : call = found := by simpa using same'
    exact same ▸ last
  · rw [List.concat_eq_append, ← List.cons_append, ← List.append_assoc] at split
    exact earlier before found after (List.append_inj' split rfl).1

namespace Connector

section

variable [Channel C]

/-- Every successful dial among these calls has left its mark. -/
def Marked (connector : Connector) (c : C) : List Call → Prop :=
  Throughout fun before call =>
    call = .dial connector.endpoint → call.reaction? (replay before c) = some .done →
      Channel.isDialed (replay (before ++ [call]) c) = true

/-- Which calls may come after others when `c` is connected. A connector neither sends nor
receives. -/
def Places (connector : Connector) (c : C) (before : List Call) : Call → Prop
  | .prepare endpoint =>
      endpoint = connector.endpoint ∧ Channel.isDialed (replay before c) = false ∧
        (connector.Marked c before → before ≠ [] → Channel.isPrepared (replay before c) = false)
  | .dial endpoint => endpoint = connector.endpoint ∧ Ended c before (.prepare endpoint) .done
  | .close =>
      ∃ fault, Ended c before (.prepare connector.endpoint) (.failed fault) ∨
        Ended c before (.dial connector.endpoint) (.failed fault)
  | .sleep duration => duration = connector.delay ∧ ∃ reaction, Ended c before .close reaction
  | .send _ => False
  | .receive => False

/-- What the stage of an attempt says about the calls so far. -/
def Stands (connector : Connector) (c : C) (calls : List Call) : Stage → Prop
  | .checking =>
      connector.Marked c calls → calls ≠ [] → Channel.isDialed (replay calls c) = false →
        Channel.isPrepared (replay calls c) = false
  | .dialing => Ended c calls (.prepare connector.endpoint) .done
  | .discarding =>
      ∃ fault, Ended c calls (.prepare connector.endpoint) (.failed fault) ∨
        Ended c calls (.dial connector.endpoint) (.failed fault)
  | .pausing => ∃ reaction, Ended c calls .close reaction
  | .asleep _ => ∃ reaction, Ended c calls .close reaction

/-- What is kept by turns: the channel is that of the calls so far, and these were in place. -/
structure Kept (connector : Connector) (c : C) (calls : List Call) (channel : C) : Prop where
  channel : channel = replay calls c
  placed : Throughout (connector.Places c) calls

structure Keeps (connector : Connector) (c : C) (calls : List Call)
    (turn : Turn C Attempt UInt64) : Prop where
  kept : connector.Kept c (calls ++ called turn.events) turn.channel
  stands : ∀ next, turn.verdict = .go next →
    connector.Stands c (calls ++ called turn.events) next.stage
  waits : turn.verdict = .waiting → called turn.events = []

variable {connector : Connector} {c channel : C} {calls more : List Call} {events : List Event}

theorem Kept.concat {call : Call} (kept : connector.Kept c calls channel)
    (placed : connector.Places c calls call) :
    connector.Kept c (calls ++ [call]) (call.apply channel) where
  channel := by rw [replay_concat, ← kept.channel]
  placed := kept.placed.concat placed

theorem keeps_of_go {next : Attempt} (made : called events = more)
    (kept : connector.Kept c (calls ++ more) channel)
    (stands : connector.Stands c (calls ++ more) next.stage) :
    connector.Keeps c calls ⟨.go next, channel, events⟩ := by
  subst made
  refine ⟨kept, fun next' same => ?_, nofun⟩
  obtain rfl := Verdict.go.inj same
  exact stands

theorem keeps_of_end {verdict : Verdict Attempt UInt64} (made : called events = more)
    (kept : connector.Kept c (calls ++ more) channel) (ended : ∀ next, verdict ≠ .go next)
    (waits : verdict = .waiting → more = []) :
    connector.Keeps c calls ⟨verdict, channel, events⟩ := by
  subst made
  exact ⟨kept, fun next same => absurd same (ended next), waits⟩

theorem keeps_of_crash (made : called events = more)
    (kept : connector.Kept c (calls ++ more) channel) :
    connector.Keeps c calls ⟨.crashed, channel, events⟩ :=
  keeps_of_end made kept (by simp) (by simp)

theorem keeps_of_advance {answer : Answer C Reaction} {call : Call} {what : String}
    {attempt : Attempt} {next : Stage} (kept : connector.Kept c (calls ++ [call]) answer.state)
    (done : answer.result = .done → connector.Stands c (calls ++ [call]) next)
    (failed : ∀ fault, answer.result = .failed fault →
      connector.Stands c (calls ++ [call]) .discarding) :
    connector.Keeps c calls (connector.advance call what attempt next answer) := by
  cases result : answer.result with
  | done =>
      rw [advance_of_done connector call what _ _ _ result]
      exact keeps_of_go (called_ofAnswer ..) kept (done result)
  | failed fault =>
      obtain ⟨events, made, single⟩ :=
        advance_of_failed connector call what attempt.failed attempt.stage next result
      rw [made]
      exact keeps_of_go single kept (failed fault result)
  | crashed =>
      rw [advance_of_crashed connector call what _ _ result]
      exact keeps_of_crash (called_ofAnswer ..) kept

theorem keeps_of_discard {answer : Answer C Reaction} {attempt : Attempt}
    (kept : connector.Kept c (calls ++ [.close]) answer.state)
    (closed : Ended c (calls ++ [.close]) .close answer.result) :
    connector.Keeps c calls (discard attempt answer) := by
  cases result : answer.result with
  | done =>
      simp only [discard, result]
      exact keeps_of_go (called_ofAnswer ..) kept ⟨_, closed⟩
  | failed fault =>
      simp only [discard, result]
      refine keeps_of_go ?_ kept ⟨_, closed⟩
      rw [called_append, called_ofAnswer]
      rfl
  | crashed =>
      simp only [discard, result]
      exact keeps_of_crash (called_ofAnswer ..) kept

/-- A channel that was closed is neither dialed nor prepared. -/
def Closes (C : Type) [Channel C] : Prop :=
  ∀ c : C, Channel.isPrepared (Channel.close c).state = false ∧
    Channel.isDialed (Channel.close c).state = false

theorem keeps_of_pause (closes : Closes C) (kept : connector.Kept c calls channel)
    {reaction : Reaction} (closed : Ended c calls .close reaction) (tick : Nat)
    (attempt : Attempt) : connector.Keeps c calls (connector.pause tick attempt channel) := by
  have still : connector.Kept c (calls ++ []) channel := by rwa [List.append_nil]
  have cleared : Channel.isPrepared (replay calls c) = false := by
    obtain ⟨earlier, rfl, -⟩ := closed
    rw [replay_concat]
    exact (closes _).1
  cases pacing : connector.pacing with
  | noted =>
      simp only [pause, pacing]
      refine keeps_of_go rfl (kept.concat ⟨rfl, reaction, closed⟩) (fun _ _ _ => ?_)
      rw [called_call, called_nil, replay_concat]
      exact cleared
  | skipped =>
      simp only [pause, pacing]
      refine keeps_of_go rfl still (fun _ _ _ => ?_)
      rwa [called_nil, List.append_nil]
  | slept =>
      simp only [pause, pacing]
      refine keeps_of_go rfl still ⟨reaction, ?_⟩
      rwa [called_nil, List.append_nil]

theorem step_keeps (closes : Closes C) (kept : connector.Kept c calls channel)
    {attempt : Attempt} (stands : connector.Stands c calls attempt.stage) (tick : Nat) :
    connector.Keeps c calls (connector.step tick attempt channel) := by
  obtain ⟨failed, stage⟩ := attempt
  have still : connector.Kept c (calls ++ []) channel := by rwa [List.append_nil]
  obtain rfl := kept.channel
  cases stage with
  | checking =>
      cases up : Channel.isDialed (replay calls c) with
      | true =>
          rw [step_of_up connector tick failed up]
          exact keeps_of_end rfl still (by simp) (by simp)
      | false =>
          rw [step_of_down connector tick failed up]
          refine keeps_of_advance
            (kept.concat ⟨rfl, up, fun marked later => stands marked later up⟩)
            (fun done => ended_concat (congrArg some done))
            (fun fault refused => ⟨fault, .inl (ended_concat (congrArg some refused))⟩)
  | dialing =>
      rw [step_of_dialing]
      refine keeps_of_advance (kept.concat ⟨rfl, stands⟩) (fun done marked _ down => ?_)
        (fun fault refused => ⟨fault, .inr (ended_concat (congrArg some refused))⟩)
      have up := marked calls _ [] rfl rfl (congrArg some done)
      exact absurd (down.symm.trans up) Bool.false_ne_true
  | discarding => exact keeps_of_discard (kept.concat stands) (ended_concat rfl)
  | pausing =>
      obtain ⟨reaction, closed⟩ := stands
      exact keeps_of_pause closes kept closed tick _
  | asleep wake =>
      obtain ⟨reaction, closed⟩ := stands
      by_cases due : wake ≤ tick
      · simp only [step, if_pos due]
        refine keeps_of_go rfl still (fun _ _ _ => ?_)
        obtain ⟨earlier, rfl, -⟩ := closed
        rw [called_nil, List.append_nil, replay_concat]
        exact (closes _).1
      · simp only [step, if_neg due]
        exact keeps_of_end rfl still (by simp) fun _ => rfl

/-- Whatever a run comes to, its calls were in place, and they account for its channel. -/
theorem runTurns_keeps (closes : Closes C) (fuel tick : Nat) (attempt : Attempt)
    (kept : connector.Kept c calls channel) (stands : connector.Stands c calls attempt.stage) :
    let run := runTurns connector.step wake? none fuel tick attempt channel
    connector.Kept c (calls ++ called run.events) run.channel := by
  induction fuel generalizing calls tick attempt channel with
  | zero =>
      rw [runTurns]
      simpa only [called_nil, List.append_nil] using kept
  | succ fuel ih =>
      have made := step_keeps closes kept stands tick
      rw [runTurns]
      simp only
      split
      · rename_i next going
        have ran := ih tick next made.kept (made.stands next going)
        simpa only [Run.after, called_append, List.append_assoc] using ran
      · -- Nothing is called by a turn that waits, so the attempt stands where it stood.
        rename_i wake waiting _
        rw [Option.all_none, if_pos rfl]
        have still := made.waits waiting
        have ran := ih (max tick wake) attempt made.kept (by rwa [still, List.append_nil])
        simpa only [Run.after, called_append, List.append_assoc] using ran
      · exact made.kept

/-! What a return tells -/

theorem count_close (connector : Connector) (trials : List Trial) :
    (trials.flatMap connector.calls).count .close = failures trials := by
  induction trials with
  | nil => rfl
  | cons trial trials ih =>
      have single : (connector.calls trial).count .close = trial.isFailed.toNat := by
        cases trial <;> cases pacing : connector.pacing <;>
          simp [calls, pauses, pacing, Trial.isFailed]
      rw [List.flatMap_cons, List.count_append, ih, single, failures_cons]

theorem filter_isSleep (connector : Connector) (noted : connector.pacing = .noted)
    (trials : List Trial) :
    (trials.flatMap connector.calls).filter Call.isSleep =
      List.replicate (failures trials) (.sleep connector.delay) := by
  induction trials with
  | nil => rfl
  | cons trial trials ih =>
      have single : (connector.calls trial).filter Call.isSleep =
          List.replicate trial.isFailed.toNat (.sleep connector.delay) := by
        cases trial <;> simp [calls, pauses, noted, Trial.isFailed, Call.isSleep]
      rw [List.flatMap_cons, List.filter_append, ih, single, List.replicate_append_replicate,
        failures_cons]

end

end Connector

/-! How attempts come to an end -/

/-- Only an attempt that brings the channel up is no miss. -/
def Trial.isMiss : Trial → Bool
  | .unprepared => true
  | .undialed => true
  | .unmarked => true
  | .joined => false

def misses (trials : List Trial) : Nat :=
  trials.countP Trial.isMiss

theorem misses_cons (trial : Trial) (trials : List Trial) :
    misses (trial :: trials) = trial.isMiss.toNat + misses trials := by
  rw [misses, List.countP_cons, misses]
  cases trial.isMiss <;> simp [Nat.add_comm]

namespace Tries

section

variable [Channel C] {endpoint : Endpoint} {c c' : C} {trials : List Trial}

theorem eq_of_up (tries : Tries endpoint c trials c') (up : Channel.isDialed c = true) :
    trials = [] ∧ c' = c := by
  cases tries with
  | none => exact ⟨rfl, rfl⟩
  | next first others => exact absurd (first.down.symm.trans up) Bool.false_ne_true

/-- Attempts that bring a channel up do so with the last one. -/
theorem last_joined (closes : Connector.Closes C) (tries : Tries endpoint c trials c')
    (down : Channel.isDialed c = false) (up : Channel.isDialed c' = true) :
    ∃ first, trials = first ++ [.joined] ∧ .joined ∉ first := by
  induction tries with
  | none => exact absurd (down.symm.trans up) Bool.false_ne_true
  | @next _ trial _ trials _ tried others ih =>
      have later (kept : trial ≠ .joined)
          (rest : ∃ first, trials = first ++ [.joined] ∧ .joined ∉ first) :
          ∃ first, trial :: trials = first ++ [.joined] ∧ .joined ∉ first := by
        obtain ⟨first, rfl, absent⟩ := rest
        refine ⟨trial :: first, rfl, fun member => ?_⟩
        obtain same | member := List.mem_cons.mp member
        · exact kept same.symm
        · exact absent member
      cases tried with
      | unprepared => exact later nofun (ih (closes _).2 up)
      | undialed => exact later nofun (ih (closes _).2 up)
      | unmarked _ _ _ unmarked => exact later nofun (ih unmarked up)
      | joined _ _ _ marked =>
          obtain ⟨rfl, -⟩ := others.eq_of_up marked
          exact ⟨[], rfl, List.not_mem_nil⟩

theorem length_le (tries : Tries endpoint c trials c') :
    trials.length ≤ misses trials + 1 := by
  induction tries with
  | none => exact Nat.zero_le _
  | @next _ trial _ trials _ tried others ih =>
      rw [misses_cons, List.length_cons]
      cases tried with
      | joined _ _ _ marked =>
          obtain ⟨rfl, -⟩ := others.eq_of_up marked
          exact Nat.le_refl 1
      | _ =>
          rw [Trial.isMiss, Bool.toNat_true]
          omega

end

/-! Prospects -/

variable {endpoint : Endpoint} {prospects prospects' : Prospects} {trials : List Trial}

theorem calm (tries : Tries endpoint prospects trials prospects') (calm : prospects.Calm) :
    prospects'.Calm := by
  induction tries with
  | none => exact calm
  | next first _ ih =>
      cases first with
      | unprepared => exact ih calm.prepare.close
      | undialed => exact ih calm.prepare.dial.close
      | unmarked => exact ih calm.prepare.dial
      | joined => exact ih calm.prepare.dial

theorem not_falls (tries : Tries endpoint prospects trials prospects') (calm : prospects.Calm)
    (calls : List Call) : ¬ Falls endpoint prospects' calls := by
  have calm' := tries.calm calm
  intro falls
  cases falls with
  | preparing _ crashed => exact calm'.preparing 0 (Cue.eq_crash_of_reaction crashed)
  | dialing _ _ crashed => exact calm'.dialing 0 (Cue.eq_crash_of_reaction crashed)
  | discardingUnprepared _ _ crashed => exact calm'.closing 0 (Cue.eq_crash_of_reaction crashed)
  | discardingUndialed _ _ _ crashed => exact calm'.closing 0 (Cue.eq_crash_of_reaction crashed)

/-- Each attempt that does not bring the channel up uses up a bad prospect, on either list. -/
theorem misses_le (tries : Tries endpoint prospects trials prospects')
    (brightens : prospects.Brightens preparing dialing) :
    misses trials ≤ preparing + dialing := by
  induction tries generalizing preparing dialing with
  | none => exact Nat.zero_le _
  | @next prospects _ _ _ _ first others ih =>
      rw [misses_cons]
      cases first with
      | unprepared _ failed _ =>
          have some := brightens.preparing_pos failed
          have rest := ih brightens.prepare.close
          rw [Trial.isMiss, Bool.toNat_true]
          omega
      | undialed _ _ failed _ =>
          have some := brightens.dialing_pos (Cue.ne_succeed_of_failed failed)
          have rest := ih brightens.prepare.dial.close
          rw [Trial.isMiss, Bool.toNat_true]
          omega
      | unmarked _ _ _ unmarked =>
          have some := brightens.dialing_pos fun bright => by
            have marked : prospects.prepare.state.dial.state.dialed = true := by
              simp [Prospects.dial, Prospects.prepare, bright]
            exact absurd (unmarked.symm.trans marked) Bool.false_ne_true
          have rest := ih brightens.prepare.dial
          rw [Trial.isMiss, Bool.toNat_true]
          omega
      | joined _ _ _ marked =>
          obtain ⟨rfl, -⟩ := others.eq_of_up marked
          exact Nat.zero_le _

end Tries

namespace Connector

/-! The law -/

/-- What is known when a run returns a count of failed attempts. Each of them is followed by one
close and one sleep; the count is their number, as far as its width lets it be. -/
structure Returned [Channel C] (connector : Connector) (c : C) (failed : UInt64)
    (run : Run C Attempt UInt64) : Prop where
  up : Channel.isDialed run.channel = true
  attempts : ∃ trials, Tries connector.endpoint c trials run.channel ∧
    called run.events = trials.flatMap connector.calls ∧
    (Channel.isDialed c = false → ∃ first, trials = first ++ [.joined] ∧ .joined ∉ first)
  wraps : failed.toNat = (called run.events).count .close % UInt64.size
  counts : (called run.events).count .close < UInt64.size →
    failed.toNat = (called run.events).count .close
  sleeps : connector.pacing = .noted →
    (called run.events).filter Call.isSleep =
      List.replicate ((called run.events).count .close) (.sleep connector.delay)
  slept : connector.pacing = .slept →
    run.tick = (called run.events).count .close * connector.delay

/-- What is known of every run, also of one that goes on or that is brought down. -/
structure Law [Channel C] (connector : Connector) (c : C)
    (run : Run C Attempt UInt64) : Prop where
  idle : Channel.isDialed c = true → called run.events = []
  attempts : ∃ trials c' last, Tries connector.endpoint c trials c' ∧
    (last = [] ∨ Falls connector.endpoint c' last) ∧
    called run.events <+: trials.flatMap connector.calls ++ last
  placed : Throughout (connector.Places c) (called run.events)
  channel : run.channel = replay (called run.events) c
  returned : ∀ failed, run.verdict = .finished failed → connector.Returned c failed run

variable [Channel C] {connector : Connector} {c : C} {trials : List Trial}
  {run : Run C Attempt UInt64}

theorem Returns.returned (returns : connector.Returns c trials run) (closes : Closes C) :
    connector.Returned c (.ofNat (failures trials)) run where
  up := returns.up
  attempts := ⟨trials, returns.tries, returns.made, fun down =>
    returns.tries.last_joined closes down returns.up⟩
  wraps := by
    rw [returns.made, count_close]
    exact UInt64.toNat_ofNat'
  counts few := by
    rw [returns.made, count_close] at few ⊢
    exact UInt64.toNat_ofNat_of_lt' few
  sleeps noted := by rw [returns.made, count_close, filter_isSleep connector noted]
  slept pacing := by rw [returns.made, count_close, returns.tick, lag, pacing]

theorem law_of_closes (closes : Closes C) (connector : Connector) (c : C) (fuel : Nat) :
    connector.Law c (connector.connect fuel c) := by
  have start : connector.Kept c [] c := ⟨rfl, throughout_nil _⟩
  have kept := runTurns_keeps closes fuel 0 {} start fun _ made => absurd rfl made
  obtain ⟨trials, returns | strays⟩ := returns_or_strays connector c fuel
  · refine ⟨fun up => ?_, ⟨trials, _, [], returns.tries, .inl rfl, ?_⟩, kept.placed,
      kept.channel, fun failed finished => ?_⟩
    · rw [returns.made, (returns.tries.eq_of_up up).1]
      rfl
    · rw [returns.made]
      exact List.prefix_append ..
    · obtain rfl := Verdict.finished.inj (returns.verdict.symm.trans finished)
      exact returns.returned closes
  · obtain ⟨c', last, tries, begun, made⟩ := strays.begun
    refine ⟨fun up => ?_, ⟨trials, c', last, tries, begun, made⟩, kept.placed, kept.channel,
      fun failed finished => absurd finished (strays.unfinished failed)⟩
    obtain ⟨rfl, rfl⟩ := tries.eq_of_up up
    have none : last = [] := begun.resolve_right fun falls =>
      absurd (falls.down.symm.trans up) Bool.false_ne_true
    rw [none] at made
    exact List.prefix_nil.mp made

theorem exists_return (connector : Connector) (c : C) (bound : Nat)
    (ends : ∀ trials c', Tries connector.endpoint c trials c' →
      misses trials ≤ bound ∧ ∀ calls, ¬ Falls connector.endpoint c' calls) :
    ∃ failed turns, ∀ fuel > turns, (connector.connect fuel c).verdict = .finished failed := by
  -- All but the last one of the attempts are misses, and there are not so many of those.
  obtain ⟨trials, c', tries, next⟩ := Tries.exists_tries connector.endpoint c (bound + 2)
  obtain ⟨few, calm⟩ := ends trials c' tries
  obtain up | ⟨calls, falls⟩ | long := next
  · obtain ⟨turns, returns⟩ := returns_of_tries tries up
    exact ⟨_, turns, fun fuel enough => (returns fuel enough).verdict⟩
  · exact absurd falls (calm calls)
  · have short := tries.length_le
    omega

/-- Whatever the channel, as long as a close clears it, connecting is lawful. It returns whenever
no call brings it down and only finitely many attempts are misses; in particular when all but
finitely many prepares succeed, and all but finitely many dials succeed and are marked. -/
theorem connect_law (connector : Connector) :
    (∀ (C : Type) [Channel C], Closes C → ∀ (c : C) (fuel : Nat),
      connector.Law c (connector.connect fuel c)) ∧
    (∀ (C : Type) [Channel C] (c : C) (bound : Nat),
      (∀ trials c', Tries connector.endpoint c trials c' →
        misses trials ≤ bound ∧ ∀ calls, ¬ Falls connector.endpoint c' calls) →
      ∃ failed turns, ∀ fuel > turns, (connector.connect fuel c).verdict = .finished failed) ∧
    (∀ (prospects : Prospects) (preparing dialing : Nat), prospects.Calm →
      prospects.Brightens preparing dialing →
      ∃ failed turns, ∀ fuel > turns,
        (connector.connect fuel prospects).verdict = .finished failed) := by
  refine ⟨?lawful, ?bounded, ?brightening⟩
  case lawful =>
    intro C _ closes c fuel
    exact law_of_closes closes connector c fuel
  case bounded =>
    intro C _ c bound ends
    exact connector.exists_return c bound ends
  case brightening =>
    intro prospects preparing dialing calm brightens
    refine connector.exists_return prospects (preparing + dialing) fun trials c' tries => ?_
    exact ⟨tries.misses_le brightens, tries.not_falls calm⟩

/-- The first prepare fails, the first dial is not marked and the second one fails; so does the
first close. -/
def faltering : Prospects where
  preparing n := if n = 0 then .fail .closed else .succeed
  dialing n := if n = 0 then .succeedUnmarked else if n = 1 then .fail .closed else .succeed
  closing n := if n = 0 then .fail .closed else .succeed

theorem calm_faltering : faltering.Calm where
  preparing n := by
    simp only [faltering]
    split <;> nofun
  dialing n := by
    simp only [faltering]
    split
    · nofun
    · split <;> nofun
  closing n := by
    simp only [faltering]
    split <;> nofun

theorem brightens_faltering : faltering.Brightens 1 2 where
  preparing n late := by
    simp only [faltering, if_neg (Nat.ne_of_gt late)]
    exact fun _ => nofun
  dialing n late := by
    simp only [faltering]
    rw [if_neg (by omega), if_neg (by omega)]

theorem connect_law_past_faltering :
    let connector : Connector := ⟨.new "a.sock", 1500, .noted⟩
    let run := connector.connect 20 faltering
    let up : Script := { dialed := true }
    run.verdict = .finished 2 ∧ connector.Returned faltering 2 run ∧
      (∃ failed turns, ∀ fuel > turns,
        (connector.connect fuel faltering).verdict = .finished failed) ∧
      ∃ failed turns, ∀ fuel > turns, (connector.connect fuel up).verdict = .finished failed := by
  intro connector run up
  have finished : run.verdict = .finished 2 := by decide
  have closes : Closes Prospects := fun _ => ⟨rfl, rfl⟩
  have lawful := (connect_law connector).1 Prospects closes faltering 20
  have bounded := (connect_law connector).2.1 Script up 0 fun trials c' tries => by
    obtain ⟨rfl, rfl⟩ := tries.eq_of_up rfl
    exact ⟨Nat.le_refl 0, fun calls falls => absurd falls.down nofun⟩
  have brightening := (connect_law connector).2.2 faltering 1 2 calm_faltering brightens_faltering
  exact ⟨finished, lawful.returned 2 finished, brightening, bounded⟩

end Connector

end Heartbeat
