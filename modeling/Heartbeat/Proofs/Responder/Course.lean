import Heartbeat.Proofs.Responder.Listening

/-!
The whole course of a responder: it brings its channel up, announces that, makes its rounds and
closes its channel. A course that no round ends goes on for as long as it is watched.
-/

namespace Heartbeat

/-- What others see of a responder whose channel is up. -/
def Role.greeting : Role → List Event
  | .health => []
  | .termination => [.milestone .connected]

namespace Responder

variable (responder : Responder) (clock : Clock)

theorem outward_announce : outward responder.announce = responder.role.greeting := by
  unfold announce
  cases responder.role <;> rfl

theorem leads_of_connecting {start finish : Standing Scenario Attempt}
    (row : responder.connector.Leads n start events finish) (turn : Nat) :
    ∃ turn', responder.Leads clock n ⟨start.tick, ⟨.connecting start.state, turn⟩, start.channel⟩
      events ⟨finish.tick, ⟨.connecting finish.state, turn'⟩, finish.channel⟩ := by
  induction row generalizing turn with
  | here => exact ⟨turn, .here⟩
  | turn made _ ih =>
      obtain ⟨turn', others⟩ := ih (turn + 1)
      refine ⟨turn', .turn ?_ others⟩
      simp only [Responder.turn, step, connect, made, Verdict.map_go]
  | sleep made wakes inTime _ ih =>
      obtain ⟨turn', others⟩ := ih turn
      refine ⟨turn', .sleep ?_ wakes inTime others⟩
      simp only [Responder.turn, step, connect, made, Verdict.map_waiting]

/-- A channel that is up from the start is not connected again. -/
theorem leads_to_listening (tick : Nat) {scenario : Scenario} (calm : scenario.Calm) :
    ∃ turns events tick' turn budget after connecting,
      responder.Leads clock turns ⟨tick, {}, scenario⟩ events
          ⟨tick', ⟨.listening budget, turn⟩, after⟩ ∧
        responder.connector.BringsUp tick scenario connecting ∧
        outward events = connecting ++ responder.role.greeting ∧
        responder.Listens scenario 0 budget after := by
  obtain ⟨turns, events, tick', failed, after, row, up, arrivals, calm', dialed⟩ :=
    responder.connector.brings_up tick calm
  have listens : ∀ channel : Scenario, channel.arrivals = scenario.arrivals → channel.Calm →
      responder.Listens scenario 0 (.new responder.maxFailures) channel := by
    intro channel same calm
    refine ⟨Budget.counts_new _, fun i => ?_, calm⟩
    rw [same, Nat.zero_add]
  by_cases ready : (Channel.isPrepared scenario && Channel.isDialed scenario) = true
  · have begun : responder.step (clock 0) tick .starting scenario =
        ⟨.go responder.listen, scenario, responder.announce⟩ := if_pos ready
    have dialed : scenario.dialed = true := (Bool.and_eq_true_iff.mp ready).2
    have quiet : responder.connector.BringsUp tick scenario [] := by
      refine ⟨fun _ member => absurd member List.not_mem_nil, 1, 0, ?_⟩
      have here : responder.connector.Leads 0 ⟨tick, {}, scenario⟩ [] ⟨tick, {}, scenario⟩ := .here
      have ran := here.run_finished (responder.connector.step_of_dialed tick 0 dialed) Nat.one_pos
      rw [ran]
      exact ⟨rfl, dialed, rfl⟩
    refine ⟨1, _, tick, 1, _, scenario, [], goes_of_step begun, quiet, ?_,
      listens scenario rfl calm⟩
    rw [outward_announce, List.nil_append]
  · have begun : responder.step (clock 0) tick .starting scenario =
        ⟨.go (.connecting {}), scenario, []⟩ := if_neg ready
    obtain ⟨turn, connected⟩ := responder.leads_of_connecting clock row 1
    have listening : responder.step (clock turn) tick' (.connecting ⟨failed, .checking⟩) after =
        ⟨.go responder.listen, after,
          [.notice (responder.connector.ready failed)] ++ responder.announce⟩ := by
      simp only [step, connect, responder.connector.step_of_dialed tick' failed dialed]
    have row' := ((goes_of_step begun).trans connected).trans (goes_of_step listening)
    refine ⟨_, _, tick', turn + 1, _, after, _, row', up, ?_, listens after arrivals calm'⟩
    rw [outward_append, outward_append, outward_append, outward_announce]
    rfl

/-- Round `n` is reached, and it is the first one that ends the loop. -/
structure EndsWith (arrivals : Nat → Arrival) (n : Nat) (exit : Exit) : Prop where
  heard : ∀ i ≤ n, arrivals i ≠ .silence
  goesOn : ∀ i < n, responder.exit? arrivals i = none
  exits : responder.exit? arrivals n = some exit

section

variable [Channel C]

def job (channel : C) : Job C where
  responder := responder
  channel := channel

/-- Given enough turns the job has ended like this, and others have seen this and no more. -/
def Ends (tick : Nat) (channel : C) (exit : Exit) (seen : List Event) : Prop :=
  ∃ turns, ∀ fuel > turns,
    let progress := (responder.job channel).run none fuel clock tick
    progress.job.status = .finished exit ∧ outward progress.events = seen

/-- However many turns it is given the job has not ended, and others have seen a part of this, up
to the first receive that stays silent if there is one. -/
def Endures (tick : Nat) (channel : C) (arrivals : Nat → Arrival) (course : Nat → List Event) :
    Prop :=
  ∀ fuel,
    let progress := (responder.job channel).run none fuel clock tick
    progress.job.status.isRunning ∧
      ∃ n, (∀ i, i + 1 < n → arrivals i ≠ .silence) ∧ outward progress.events <+: course n

/-- Given enough turns others have seen this, and maybe more. -/
def Shows (tick : Nat) (channel : C) (seen : List Event) : Prop :=
  ∃ turns, ∀ fuel > turns,
    seen <+: outward ((responder.job channel).run none fuel clock tick).events

theorem run_job {channel : C} {fuel tick : Nat} {run : Run C Post Exit}
    (ran : runTurns (responder.turn clock) wake? none fuel tick {} channel = run) :
    ((responder.job channel).run none fuel clock tick).job.status =
        .ofVerdict run.state.phase (run.verdict.map Post.phase) ∧
      ((responder.job channel).run none fuel clock tick).events = run.events := by
  subst ran
  exact ⟨rfl, rfl⟩

end

theorem exit?_eq_none {arrivals : Nat → Arrival}
    (endless : ∀ n exit, ¬ responder.EndsWith arrivals n exit) {n : Nat}
    (heard : ∀ i ≤ n, arrivals i ≠ .silence) : responder.exit? arrivals n = none := by
  induction n using Nat.strongRecOn with
  | ind n ih =>
      have goesOn : ∀ i < n, responder.exit? arrivals i = none := fun i early =>
        ih i early fun j below => heard j (Nat.le_trans below (Nat.le_of_lt early))
      cases exits : responder.exit? arrivals n with
      | none => rfl
      | some exit => exact absurd ⟨heard, goesOn, exits⟩ (endless n exit)

theorem threshold_eq_max : responder.threshold = max 1 responder.maxFailures := by
  rw [threshold, Budget.max_new]
  split
  · rename_i zero
    rw [zero]
    rfl
  · rename_i positive
    refine (if_pos ?_).symm
    rw [UInt32.le_iff_toNat_le]
    exact Nat.pos_of_ne_zero fun zero => positive (UInt32.toNat_inj.mp zero)

theorem exit?_of_faultsEnd {arrivals : Nat → Arrival} {n : Nat}
    (faults : FaultsEnd arrivals responder.threshold.toNat (n + 1)) :
    responder.exit? arrivals n = some (.exhausted responder.threshold) := by
  have positive : 0 < responder.threshold.toNat := Budget.max_new_pos _
  have fault : (arrivals n).isFault := faults.2 n (by omega) (Nat.lt_succ_self n)
  rw [exit?, if_pos fault, if_pos (faultsEnd_iff.mp faults)]

/-- Faults that never stop bring any responder to an end. -/
theorem exists_endsWith {arrivals : Nat → Arrival} (heard : ∀ n, arrivals n ≠ .silence) (k : Nat)
    (faults : ∀ n, k ≤ n → (arrivals n).isFault) :
    ∃ n exit, responder.EndsWith arrivals n exit := by
  refine Classical.byContradiction fun endless => ?_
  have positive : 0 < responder.threshold.toNat := Budget.max_new_pos _
  have last : FaultsEnd arrivals responder.threshold.toNat
      (k + responder.threshold.toNat - 1 + 1) := by
    rw [Nat.sub_add_cancel (by omega)]
    exact ⟨Nat.le_add_left _ _, fun i late _ => faults i (by omega)⟩
  have exits := responder.exit?_of_faultsEnd last
  rw [responder.exit?_eq_none (fun n exit ends => endless ⟨n, exit, ends⟩)
    fun i _ => heard i] at exits
  exact Option.some_ne_none _ exits.symm

theorem exit?_of_not_request {arrivals : Nat → Arrival} {n : Nat}
    (spared : ¬ FaultsEnd arrivals responder.threshold.toNat (n + 1))
    (notRequest : (arrivals n).isRequest responder.role = false) :
    responder.exit? arrivals n = none := by
  rw [faultsEnd_iff] at spared
  rw [exit?, if_neg spared, notRequest]
  exact ite_self none

theorem not_isFault_of_isRequest {role : Role} {arrival : Arrival}
    (request : arrival.isRequest role = true) : ¬ arrival.isFault = true := by
  cases arrival with
  | datagram bytes => exact Bool.false_ne_true
  | fault fault => exact absurd request Bool.false_ne_true
  | silence => exact Bool.false_ne_true
  | crash => exact Bool.false_ne_true

theorem exit?_of_request {arrivals : Nat → Arrival} {n : Nat}
    (request : (arrivals n).isRequest responder.role = true) :
    responder.exit? arrivals n =
      match responder.role with
      | .health => none
      | .termination => some .terminated :=
  (if_neg (not_isFault_of_isRequest request)).trans (if_pos request)

/-- A responder that nothing ends before gives up with the receive that is one failure too many. -/
theorem endsWith_exhausted {arrivals : Nat → Arrival} {n : Nat}
    (fails : FailsAfter arrivals responder.threshold.toNat n)
    (goesOn : ∀ i < n, ¬ FaultsEnd arrivals responder.threshold.toNat (i + 1) →
      responder.exit? arrivals i = none) :
    ∃ last, n = last + 1 ∧
      responder.EndsWith arrivals last (.exhausted responder.threshold) := by
  have positive : 0 < responder.threshold.toNat := Budget.max_new_pos _
  obtain ⟨last, rfl⟩ : ∃ last, n = last + 1 :=
    Nat.exists_eq_succ_of_ne_zero (by have := fails.ended.1; omega)
  refine ⟨last, rfl, fun i below => fails.heard i (Nat.lt_succ_of_le below), ?_, ?_⟩
  · intro i early
    exact goesOn i (Nat.lt_succ_of_lt early) (fails.first (i + 1) (Nat.succ_lt_succ early))
  · exact responder.exit?_of_faultsEnd fails.ended

/-- Conversely, failures that end the loop are the first ones that are enough. -/
theorem failsAfter_of_endsWith {arrivals : Nat → Arrival} {n : Nat} {exit : Exit}
    (ends : responder.EndsWith arrivals n exit)
    (faults : FaultsEnd arrivals responder.threshold.toNat (n + 1)) :
    FailsAfter arrivals responder.threshold.toNat (n + 1) := by
  have positive : 0 < responder.threshold.toNat := Budget.max_new_pos _
  refine ⟨fun i early => ends.heard i (Nat.le_of_lt_succ early), faults, fun k early before => ?_⟩
  obtain ⟨last, rfl⟩ : ∃ last, k = last + 1 :=
    Nat.exists_eq_succ_of_ne_zero (by have := before.1; omega)
  have goesOn := ends.goesOn last (Nat.lt_of_succ_lt_succ early)
  rw [responder.exit?_of_faultsEnd before] at goesOn
  exact Option.some_ne_none _ goesOn

theorem silence_cases (arrivals : Nat → Arrival) :
    (∀ n, arrivals n ≠ .silence) ∨
      ∃ n, arrivals n = .silence ∧ ∀ i < n, arrivals i ≠ .silence := by
  by_cases first : ∃ n, arrivals n = .silence ∧ ∀ i < n, arrivals i ≠ .silence
  · exact .inr first
  · left
    intro n
    induction n using Nat.strongRecOn with
    | ind n ih => exact fun silence => first ⟨n, silence, ih⟩

theorem running_of_short {scenario : Scenario} {finish : Standing Scenario Post}
    (row : responder.Leads clock turns ⟨tick, {}, scenario⟩ events finish) {fuel : Nat}
    (short : fuel ≤ turns) :
    ((responder.job scenario).run none fuel clock tick).job.status.isRunning ∧
      outward ((responder.job scenario).run none fuel clock tick).events <+: outward events := by
  obtain ⟨stop, seen, part, ran⟩ := row.run_short short
  obtain ⟨status, events⟩ := responder.run_job clock ran
  rw [status, events]
  exact ⟨rfl, part.filter _⟩

theorem shows_of_row {scenario : Scenario} {finish : Standing Scenario Post}
    (row : responder.Leads clock turns ⟨tick, {}, scenario⟩ events finish) :
    responder.Shows clock tick scenario (outward events) := by
  refine ⟨turns, fun fuel enough => ?_⟩
  obtain ⟨spare, rfl⟩ := Nat.exists_eq_add_of_le (Nat.le_of_lt enough)
  obtain ⟨-, shown⟩ := responder.run_job clock (row.run spare)
  rw [shown, Run.after, outward_append]
  exact List.prefix_append ..

section

variable {tick tick' turn : Nat} {scenario middle : Scenario} {budget : Budget}
  (row : responder.Leads clock turns ⟨tick, {}, scenario⟩ events
    ⟨tick', ⟨.listening budget, turn⟩, middle⟩)
  (listens : responder.Listens scenario 0 budget middle)

include row listens

theorem shows_rounds {n : Nat} (heard : ∀ i < n, scenario.arrivals i ≠ .silence)
    (goesOn : ∀ i < n, responder.exit? scenario.arrivals i = none) :
    responder.Shows clock tick scenario
      (outward events ++
        responder.rounds (responder.replies clock turn scenario.arrivals) scenario.arrivals n) := by
  obtain ⟨_, _, _, row', seen, -⟩ :=
    responder.leads_of_rounds clock listens tick' turn heard goesOn
  have shown := responder.shows_of_row clock (row.trans row')
  rwa [outward_append, seen] at shown

theorem ends_of_listening (ends : responder.EndsWith scenario.arrivals n exit) :
    responder.Ends clock tick scenario exit
      (outward events ++
        responder.rounds (responder.replies clock turn scenario.arrivals) scenario.arrivals
          (n + 1) ++ [.call .close]) := by
  obtain ⟨more, after, row', seen, calm⟩ :=
    responder.leads_to_exit clock listens tick' turn ends.heard ends.goesOn ends.exits
  let last := turn + responder.turnsBefore scenario.arrivals (n + 1)
  obtain ⟨lastly, closed, seenLast⟩ := responder.step_of_closing (clock last) tick' exit calm
  have made : responder.turn clock tick' ⟨.closing exit, last⟩ after =
      ⟨.finished exit, after.close.state, lastly⟩ := by
    simp only [Responder.turn, closed, Verdict.map_finished]
  refine ⟨turns + responder.turnsBefore scenario.arrivals (n + 1), fun fuel enough => ?_⟩
  obtain ⟨status, all⟩ := responder.run_job clock ((row.trans row').run_finished made enough)
  simp only [status, all]
  refine ⟨rfl, ?_⟩
  rw [outward_append, outward_append, seen, seenLast]

theorem endures_of_listening (endless : ∀ n exit, ¬ responder.EndsWith scenario.arrivals n exit) :
    responder.Endures clock tick scenario scenario.arrivals fun n =>
      outward events ++
        responder.rounds (responder.replies clock turn scenario.arrivals) scenario.arrivals n := by
  intro fuel
  rcases silence_cases scenario.arrivals with never | ⟨k, silence, heard⟩
  · obtain ⟨more, _, _, row', seen, -⟩ :=
      responder.leads_of_rounds clock listens tick' turn (fun i (_ : i < fuel) => never i)
        (fun i _ => responder.exit?_eq_none endless (fun j _ => never j))
    obtain ⟨running, part⟩ := responder.running_of_short clock (row.trans row')
      (Nat.le_add_left_of_le (responder.le_turnsBefore scenario.arrivals fuel))
    rw [outward_append, seen] at part
    exact ⟨running, fuel, fun i _ => never i, part⟩
  · -- From the first silence on the loop stands in one receive, however long it is watched.
    have heardBefore : ∀ i, i + 1 < k + 1 → scenario.arrivals i ≠ .silence := fun i early =>
      heard i (Nat.lt_of_succ_lt_succ early)
    obtain ⟨more, budget', after, row', seen, listens'⟩ :=
      responder.leads_of_rounds clock listens tick' turn heard
        (fun i early => responder.exit?_eq_none endless
          (fun j below => heard j (Nat.lt_of_le_of_lt below early)))
    let last := turn + responder.turnsBefore scenario.arrivals k
    have waits := (row.trans row').trans
      (responder.leads_to_receiving clock tick' last budget' after)
    have made : responder.turn clock tick' ⟨.receiving budget', last + 1⟩ after =
        ⟨.waiting, after, []⟩ := by
      simp only [Responder.turn, responder.step_of_silence listens' _ tick' silence,
        Verdict.map_waiting]
    have all : outward (events ++ more ++ [.call .receive]) =
        outward events ++ responder.rounds (responder.replies clock turn scenario.arrivals)
          scenario.arrivals (k + 1) := by
      rw [outward_append, outward_append, seen, rounds_succ, round, silence, List.append_assoc]
      rfl
    rcases Nat.lt_or_ge (turns + responder.turnsBefore scenario.arrivals k + 1) fuel with
      enough | few
    · have ran := waits.run_waiting made rfl enough
      obtain ⟨status, shown⟩ := responder.run_job clock ran
      simp only [status, shown]
      rw [List.append_nil, all]
      exact ⟨rfl, k + 1, heardBefore, List.prefix_rfl⟩
    · obtain ⟨running, part⟩ := responder.running_of_short clock waits few
      rw [all] at part
      exact ⟨running, k + 1, heardBefore, part⟩

end

/-- The course of a responder. It ends with the first round that ends the loop, goes on for ever
if there is none, and shows every round on its way. Its rounds begin with some turn. -/
theorem course (tick : Nat) {scenario : Scenario} (calm : scenario.Calm) :
    ∃ connecting turn, responder.connector.BringsUp tick scenario connecting ∧
      let replies := responder.replies clock turn scenario.arrivals
      (∀ n exit, responder.EndsWith scenario.arrivals n exit →
        responder.Ends clock tick scenario exit
          (connecting ++ responder.role.greeting ++
            responder.rounds replies scenario.arrivals (n + 1) ++ [.call .close])) ∧
      ((∀ n exit, ¬ responder.EndsWith scenario.arrivals n exit) →
        responder.Endures clock tick scenario scenario.arrivals fun n =>
          connecting ++ responder.role.greeting ++
            responder.rounds replies scenario.arrivals n) ∧
      (∀ n, (∀ i < n, scenario.arrivals i ≠ .silence) →
        (∀ i < n, responder.exit? scenario.arrivals i = none) →
        responder.Shows clock tick scenario
          (connecting ++ responder.role.greeting ++
            responder.rounds replies scenario.arrivals n)) := by
  obtain ⟨turns, events, tick', turn, budget, middle, connecting, row, up, seen, listens⟩ :=
    responder.leads_to_listening clock tick calm
  refine ⟨connecting, turn, up, ?_, ?_, ?_⟩
  · intro n exit ends
    rw [← seen]
    exact responder.ends_of_listening clock row listens ends
  · intro endless
    rw [← seen]
    exact responder.endures_of_listening clock row listens endless
  · intro n heard goesOn
    rw [← seen]
    exact responder.shows_rounds clock row listens heard goesOn

end Responder

/-- A clock that shows the next second in every turn, and begins anew after a minute. -/
def Clock.minute : Clock := fun turn => ⟨0, turn % 60, 0⟩

theorem Clock.valid_minute (turn : Nat) : (Clock.minute turn).Valid := by
  have second : turn % 60 < 60 := Nat.mod_lt turn (by decide)
  exact ⟨by simp +decide [minute], by simp +decide [minute], Nat.lt_trans second (by decide),
    by simp [minute], fun leap => absurd leap (by simp [minute])⟩

end Heartbeat
