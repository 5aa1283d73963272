import Heartbeat.Proofs.Responder.Moves

/-!
What the signals of a bus stand for, whatever happens to it. They follow the phases of the
termination job, and a wait is told what the signal says in the end.
-/

namespace Heartbeat

open Responder

/-- Whether a request to terminate has been answered. -/
def Phase.isRequested : Phase → Bool
  | .closing .terminated => true
  | _ => false

namespace Status

/-- Where a termination job is and which of its signals are raised. A job that was stopped may
have got anywhere. -/
def Tells : Status → Bool → Bool → Prop
  | .running phase, connected, requested =>
      connected = phase.isUp ∧ requested = phase.isRequested
  | .finished exit, connected, requested =>
      connected = true ∧ requested = decide (exit = .terminated)
  | _, connected, requested => requested → connected

theorem Tells.ordered {status : Status} {connected requested : Bool}
    (tells : status.Tells connected requested) (asked : requested) : connected := by
  cases status with
  | running phase =>
      obtain ⟨rfl, rfl⟩ := tells
      cases phase with
      | closing exit => rfl
      | _ => cases asked
  | finished exit => exact tells.1
  | crashed => exact tells asked
  | aborted => exact tells asked

end Status

/-- An end without a request to terminate. -/
def Status.GivesUp (status : Status) : Prop :=
  status = .crashed ∨ status = .aborted ∨ ∃ consecutive, status = .finished (.exhausted consecutive)

theorem Status.Tells.givesUp_iff {status : Status} {connected : Bool}
    (tells : status.Tells connected false) : status.GivesUp ↔ status.isRunning = false := by
  constructor
  · rintro (rfl | rfl | ⟨_, rfl⟩) <;> rfl
  · intro ended
    cases status with
    | running phase => cases ended
    | finished exit =>
        obtain ⟨-, unasked⟩ := tells
        cases exit with
        | terminated => cases unasked
        | exhausted consecutive => exact .inr (.inr ⟨consecutive, rfl⟩)
    | crashed => exact .inl rfl
    | aborted => exact .inr (.inl rfl)

theorem Job.abort_cases (job : Job C) :
    job.abort.responder = job.responder ∧
      (job.abort.status = job.status ∨ job.status.isRunning ∧ job.abort.status = .aborted) := by
  unfold abort
  split
  · rename_i running
    exact ⟨rfl, .inr ⟨running, rfl⟩⟩
  · exact ⟨rfl, .inl rfl⟩

theorem Responder.Passage.tells [Channel C] {responder : Responder} {date : Calendar.Instant}
    {channel : C} {phase : Phase} {status : Status} {said : List Milestone}
    {connected requested : Bool} (passage : Passage responder date channel phase status said)
    (tells : (Status.running phase).Tells connected requested) :
    status.Tells (connected || said.contains .connected)
      (requested || said.contains .requested) := by
  have ordered := tells.ordered
  obtain ⟨rfl, rfl⟩ := tells
  cases passage with
  | crash =>
      simp only [List.contains_nil, Bool.or_false]
      exact ordered
  | connect down attempt =>
      rw [down] at ordered ⊢
      have unasked : phase.isRequested = false := Bool.eq_false_iff.mpr fun asked =>
        Bool.false_ne_true (ordered asked)
      rw [unasked]
      exact ⟨rfl, rfl⟩
  | join dialed => cases dialed <;> exact ⟨rfl, rfl⟩
  | @close exit => cases exit <;> exact ⟨rfl, rfl⟩
  | _ => exact ⟨rfl, rfl⟩

namespace Bus

structure Sound (bus : Bus H T) : Prop where
  role : bus.termination.responder.role = .termination
  tells : bus.termination.status.Tells bus.connected.raised bus.requested.raised
  connected_owned : bus.connected.writable = bus.termination.status.isRunning
  requested_owned : bus.requested.writable = bus.termination.status.isRunning
  counted : bus.requested.Counted
  keeps : ∀ wait ∈ bus.waits, bus.requested.Keeps wait

/-- A bus whose termination job is about to start. -/
structure Fresh (bus : Bus H T) : Prop where
  role : bus.termination.responder.role = .termination
  starting : bus.termination.status = .running .starting
  connected : bus.connected = {}
  requested : bus.requested = {}
  waits : bus.waits = []

theorem Fresh.unstopped {bus : Bus H T} (fresh : bus.Fresh) :
    bus.termination.status ≠ .aborted := by
  rw [fresh.starting]
  exact Status.noConfusion

theorem Fresh.sound {bus : Bus H T} (fresh : bus.Fresh) : bus.Sound := by
  obtain ⟨role, starting, connected, requested, waits⟩ := fresh
  refine ⟨role, ?_, ?_, ?_, ?_, ?_⟩
  · rw [starting, connected, requested]
    exact ⟨rfl, rfl⟩
  · rw [starting, connected]
    rfl
  · rw [starting, requested]
    rfl
  · rw [requested]
    rfl
  · rw [waits]
    exact nofun

theorem Sound.release {bus : Bus H T} (sound : bus.Sound) : bus.release = bus := by
  rw [release_eq, Latch.keepIf_of_owned sound.connected_owned,
    Latch.keepIf_of_owned sound.requested_owned]

theorem Sound.wait_eq {bus : Bus H T} (sound : bus.Sound) :
    bus.wait =
      if bus.requested.raised then some true
      else if bus.termination.status.isRunning then none else some false := by
  rw [wait, Latch.result?_wait, sound.requested_owned]

theorem Sound.wait_eq_true {bus : Bus H T} (sound : bus.Sound) :
    bus.wait = some true ↔ bus.requested.raised := by
  rw [sound.wait_eq]
  cases bus.requested.raised <;> cases bus.termination.status.isRunning <;> decide

theorem Sound.wait_eq_none {bus : Bus H T} (sound : bus.Sound) :
    bus.wait = none ↔ bus.requested.raised = false ∧ bus.termination.status.isRunning := by
  rw [sound.wait_eq]
  cases bus.requested.raised <;> cases bus.termination.status.isRunning <;> decide

theorem Sound.wait_eq_false {bus : Bus H T} (sound : bus.Sound) :
    bus.wait = some false ↔
      bus.requested.raised = false ∧ bus.termination.status.GivesUp := by
  have tells := sound.tells
  rw [sound.wait_eq]
  cases up : bus.requested.raised with
  | true => exact ⟨nofun, nofun⟩
  | false =>
      rw [up] at tells
      rw [tells.givesUp_iff]
      cases bus.termination.status.isRunning <;> decide

namespace Scripted

/-- What a move does to the signals, the waits and the job behind them. -/
structure Evolves (clock : Role → Clock) (bus : Scripted) (next : Move) (later : Scripted)
    (said : List Milestone) : Prop where
  responder : later.termination.responder = bus.termination.responder
  connected : later.connected =
    (bus.connected.raiseIf (said.contains .connected)).keepIf later.termination.status.isRunning
  requested : later.requested =
    (bus.requested.raiseIf (said.contains .requested)).keepIf later.termination.status.isRunning
  waits : ∀ wait ∈ later.waits, wait ∈ bus.waits ∨ wait = bus.requested.wait
  passes :
    (∃ tick phase, next = .termination tick ∧ bus.termination.status = .running phase ∧
      Passage bus.termination.responder (clock .termination bus.termination.turns)
        bus.termination.channel phase later.termination.status said) ∨
    (said = [] ∧
      (later.termination.status = bus.termination.status ∨
        bus.termination.status.isRunning ∧ later.termination.status = .aborted) ∧
      ∀ tick, next = .termination tick → bus.termination.status.isRunning = false)

variable {clock : Role → Clock} {bus later : Scripted} {next : Move} {said : List Milestone}

theorem evolves_of_quiet {acted : Scripted}
    (responder : acted.termination.responder = bus.termination.responder)
    (connected : acted.connected = bus.connected) (requested : acted.requested = bus.requested)
    (waits : ∀ wait ∈ acted.waits, wait ∈ bus.waits ∨ wait = bus.requested.wait)
    (status : acted.termination.status = bus.termination.status ∨
      bus.termination.status.isRunning ∧ acted.termination.status = .aborted)
    (turn : ∀ tick, next = .termination tick → bus.termination.status.isRunning = false) :
    bus.Evolves clock next acted.release [] := by
  rw [release_eq]
  exact ⟨responder, connected ▸ rfl, requested ▸ rfl, waits, .inr ⟨rfl, status, turn⟩⟩

theorem exists_evolves (sound : bus.Sound) (next : Move) :
    ∃ said, bus.Evolves clock next (bus.move clock next) said := by
  have same (wait : Wait) (member : wait ∈ bus.waits) :
      wait ∈ bus.waits ∨ wait = bus.requested.wait := .inl member
  cases next with
  | health tick => exact ⟨[], evolves_of_quiet rfl rfl rfl same (.inl rfl) nofun⟩
  | clock tick => exact ⟨[], evolves_of_quiet rfl rfl rfl same (.inl rfl) nofun⟩
  | poll =>
      refine ⟨[], evolves_of_quiet rfl rfl rfl (fun wait member => ?_) (.inl rfl) nofun⟩
      obtain ⟨parked, there, rfl⟩ := List.mem_map.mp member
      exact .inr (sound.counted.poll_eq_wait (sound.keeps parked there))
  | act step =>
      cases step with
      | abortTermination =>
          obtain ⟨responder, status⟩ := bus.termination.abort_cases
          exact ⟨[], evolves_of_quiet responder rfl rfl same status nofun⟩
      | spawnWait =>
          refine ⟨[], evolves_of_quiet rfl rfl rfl (fun wait member => ?_) (.inl rfl) nofun⟩
          exact (List.mem_append.mp member).imp_right List.mem_singleton.mp
      | _ => exact ⟨[], evolves_of_quiet rfl rfl rfl same (.inl rfl) nofun⟩
  | termination tick =>
      cases running : bus.termination.status.isRunning with
      | false =>
          refine ⟨[], ?_⟩
          rw [move, make, Job.turn_of_ended running]
          exact evolves_of_quiet rfl rfl rfl same (.inl rfl) fun _ _ => running
      | true =>
          obtain ⟨phase, status⟩ := Status.exists_phase running
          let date := clock .termination bus.termination.turns
          let turn := bus.termination.responder.step date tick phase bus.termination.channel
          refine ⟨milestones turn.events, ?_⟩
          rw [move, make, Job.turn_of_running status]
          simp only
          rw [observe_eq, release_eq]
          exact ⟨rfl, rfl, rfl, same, .inl ⟨tick, phase, rfl, status,
            passage date sound.role tick phase bus.termination.channel⟩⟩

theorem Evolves.running (evolves : bus.Evolves clock next later said)
    (running : later.termination.status.isRunning) : bus.termination.status.isRunning := by
  obtain ⟨-, phase, -, from', -⟩ | ⟨-, same | ⟨before, -⟩, -⟩ := evolves.passes
  · rw [from']
    rfl
  · rwa [← same]
  · exact before

theorem Evolves.speaks (evolves : bus.Evolves clock next later said) {milestone : Milestone}
    (tells : said.contains milestone) : bus.termination.status.isRunning := by
  obtain ⟨-, phase, -, from', -⟩ | ⟨rfl, -⟩ := evolves.passes
  · rw [from']
    rfl
  · cases tells

theorem Evolves.leads (evolves : bus.Evolves clock next later said) (sound : bus.Sound) :
    bus.connected.Leads later.connected ∧ bus.requested.Leads later.requested := by
  rw [evolves.connected, evolves.requested]
  refine ⟨(Latch.leads_raiseIf fun tells => ?_).trans (Latch.leads_keepIf ..),
    (Latch.leads_raiseIf fun tells => ?_).trans (Latch.leads_keepIf ..)⟩
  · rw [sound.connected_owned]
    exact evolves.speaks tells
  · rw [sound.requested_owned]
    exact evolves.speaks tells

theorem Evolves.sound (evolves : bus.Evolves clock next later said) (sound : bus.Sound) :
    later.Sound where
  role := evolves.responder ▸ sound.role
  tells := by
    rw [evolves.connected, evolves.requested]
    simp only [Latch.raised_keepIf, Latch.raised_raiseIf]
    have before := sound.tells
    obtain ⟨-, phase, -, from', passage⟩ | ⟨rfl, status, -⟩ := evolves.passes
    · rw [from'] at before
      exact passage.tells before
    · simp only [List.contains_nil, Bool.or_false]
      obtain same | ⟨-, aborted⟩ := status
      · rwa [same]
      · rw [aborted]
        exact before.ordered
  connected_owned := by
    rw [evolves.connected, Latch.writable_keepIf, Latch.writable_raiseIf, sound.connected_owned]
    exact Bool.and_eq_right_iff_imp.mpr evolves.running
  requested_owned := by
    rw [evolves.requested, Latch.writable_keepIf, Latch.writable_raiseIf, sound.requested_owned]
    exact Bool.and_eq_right_iff_imp.mpr evolves.running
  counted := by
    rw [evolves.requested]
    exact (sound.counted.raiseIf _).keepIf _
  keeps wait member := by
    have kept : bus.requested.Keeps wait := by
      obtain before | rfl := evolves.waits wait member
      · exact sound.keeps wait before
      · exact sound.counted.keeps_wait
    exact kept.leads (evolves.leads sound).2

end Scripted

end Bus

end Heartbeat
