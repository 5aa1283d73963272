import Heartbeat.Proofs.Signal.Latch
import Heartbeat.Signal.Readers

/-!
A latch as it is seen from outside. Its writer, its readers and the tasks that wait on it, whenever
they came, are all answered from two bits: whether it was raised, and whether its writer is there.
-/

namespace Heartbeat.Signal

structure Switch where
  raised : Bool := false
  writable : Bool := true
deriving DecidableEq

/-- Which readers are still there, and how many tasks have come. -/
structure Attendance where
  readers : List Bool := [true]
  tasks : Nat := 0
deriving DecidableEq

def Reply.ofTold : Option Bool → Reply
  | some raised => .flag raised
  | none => .pending

namespace Attendance

def isThere (attendance : Attendance) (reader : Nat) : Bool :=
  attendance.readers[reader]?.getD false

def after (attendance : Attendance) (switch : Switch) : Step → Attendance
  | .subscribe =>
      if switch.writable then { attendance with readers := attendance.readers ++ [true] }
      else attendance
  | .clone reader =>
      if attendance.isThere reader then
        { attendance with readers := attendance.readers ++ [true] }
      else attendance
  | .drop reader => { attendance with readers := attendance.readers.set reader false }
  | .spawn reader =>
      if attendance.isThere reader then { attendance with tasks := attendance.tasks + 1 }
      else attendance
  | _ => attendance

end Attendance

namespace Switch

/-- What a wait is told, if it is told anything yet. -/
def told? (switch : Switch) : Option Bool :=
  if switch.raised then some true else if switch.writable then none else some false

/-- Nobody but the writer moves a switch. -/
def after (switch : Switch) : Step → Switch
  | .raise => if switch.writable then { switch with raised := true } else switch
  | .dropWriter => { switch with writable := false }
  | _ => switch

def reply (switch : Switch) (attendance : Attendance) : Step → Reply
  | .raise => if switch.writable then .flag !switch.raised else .noWriter
  | .isRaisedForWriter => if switch.writable then .flag switch.raised else .noWriter
  | .dropWriter => .flag switch.writable
  | .subscribe => if switch.writable then .number attendance.readers.length else .noWriter
  | .clone reader =>
      if attendance.isThere reader then .number attendance.readers.length else .noReader
  | .isRaised reader => if attendance.isThere reader then .flag switch.raised else .noReader
  | .wait reader => if attendance.isThere reader then .ofTold switch.told? else .noReader
  | .drop reader => .flag (attendance.isThere reader)
  | .spawn reader => if attendance.isThere reader then .number attendance.tasks else .noReader
  | .check task => if task < attendance.tasks then .ofTold switch.told? else .pending

/-- Where a row of steps leads. -/
def follow (switch : Switch) (steps : List Step) : Switch :=
  steps.foldl after switch

def replies (switch : Switch) (attendance : Attendance) : List Step → List Reply
  | [] => []
  | step :: steps =>
      switch.reply attendance step ::
        (switch.after step).replies (attendance.after switch step) steps

theorem raised_after_of_ne {step : Step} (other : step ≠ .raise) (switch : Switch) :
    (switch.after step).raised = switch.raised := by
  cases step with
  | raise => exact absurd rfl other
  | _ => rfl

/-- Of all calls to raise a switch only the one that moves it is answered with yes. -/
theorem count_moves (switch : Switch) (attendance : Attendance) (steps : List Step) :
    (steps.zip (switch.replies attendance steps)).count (.raise, .flag true) +
        switch.raised.toNat = (switch.follow steps).raised.toNat := by
  induction steps generalizing switch attendance with
  | nil => exact Nat.zero_add _
  | cons step steps ih =>
      have later := ih (switch.after step) (attendance.after switch step)
      rw [replies, List.zip_cons_cons, follow, List.foldl_cons, ← follow, ← later,
        List.count_cons, Nat.add_assoc]
      congr 1
      by_cases raising : step = .raise
      · subst raising
        obtain ⟨raised, writable⟩ := switch
        cases raised <;> cases writable <;> rfl
      · have other : (step, switch.reply attendance step) ≠ (.raise, .flag true) := fun same =>
          raising (congrArg Prod.fst same)
        rw [raised_after_of_ne raising, beq_false_of_ne other, if_neg Bool.false_ne_true,
          Nat.zero_add]

end Switch

namespace Room

variable {room : Room} {switch : Switch} {attendance : Attendance} {since : Latch}

def follow (room : Room) (steps : List Step) : Room :=
  steps.foldl (fun room step => (room.step step).2) room

/-- From outside, a room is nothing but a switch and those who attend it. Its tasks know as much
as there was to know at an earlier time. -/
structure Shows (room : Room) (since : Latch) (switch : Switch) (attendance : Attendance) :
    Prop where
  raised : room.latch.raised = switch.raised
  writable : room.latch.writable = switch.writable
  counted : room.latch.Counted
  readers : room.readers.map Option.isSome = attendance.readers
  tasks : room.tasks = List.replicate attendance.tasks since.wait
  counted_since : since.Counted
  leads : since.Leads room.latch

theorem shows_new : Shows {} {} {} {} :=
  ⟨rfl, rfl, rfl, rfl, rfl, rfl, .refl _⟩

theorem Shows.settle (shows : room.Shows since switch attendance) :
    room.settle.Shows room.latch switch attendance where
  raised := shows.raised
  writable := shows.writable
  counted := shows.counted
  readers := shows.readers
  tasks := by
    rw [Room.settle, shows.tasks, List.map_replicate]
    have kept := shows.counted_since.keeps_wait.leads shows.leads
    rw [shows.counted.poll_eq_wait kept]
  counted_since := shows.counted
  leads := .refl _

theorem Shows.isThere (shows : room.Shows since switch attendance) (reader : Nat) :
    attendance.isThere reader = (room.reader? reader).isSome := by
  rw [Attendance.isThere, ← shows.readers, List.getElem?_map, reader?]
  cases room.readers[reader]? with
  | none => rfl
  | some seen => rfl

theorem Shows.result?_wait (shows : room.Shows since switch attendance) :
    room.latch.wait.result? = switch.told? := by
  rw [Latch.result?_wait, shows.raised, shows.writable]
  rfl

theorem Shows.ofWait_wait (shows : room.Shows since switch attendance) :
    Reply.ofWait room.latch.wait = .ofTold switch.told? := by
  rw [← shows.result?_wait]
  rfl

theorem Shows.addTask (shows : room.Shows room.latch switch attendance) :
    Reply.number room.tasks.length = .number attendance.tasks ∧
      Shows { room with tasks := room.tasks ++ [room.latch.wait] } room.latch switch
        { attendance with tasks := attendance.tasks + 1 } := by
  -- A new task knows what all the others do: they were polled at the end of the last step.
  refine ⟨?_, { shows with tasks := ?_ }⟩
  · rw [shows.tasks, List.length_replicate]
  · rw [shows.tasks, List.replicate_succ']

theorem Shows.check (shows : room.Shows room.latch switch attendance) (task : Nat) :
    (room.act (.check task)).1 = switch.reply attendance (.check task) := by
  simp only [Room.act, Switch.reply, shows.tasks, List.getElem?_replicate]
  by_cases known : task < attendance.tasks
  · simp only [if_pos known]
    exact shows.ofWait_wait
  · simp only [if_neg known]

section

variable (shows : room.Shows since switch attendance)

include shows

theorem Shows.raise :
    room.latch.raise.1 = !switch.raised ∧
      (switch.writable →
        Shows { room with latch := room.latch.raise.2 } since { switch with raised := true }
          attendance) := by
  refine ⟨?_, fun writable => ?_⟩
  · rw [← shows.raised, Latch.raise]
    split
    · rename_i up
      rw [up]
      rfl
    · rename_i lowered
      rw [Bool.eq_false_iff.mpr lowered]
      rfl
  · have leads : room.latch.Leads (room.latch.raiseIf true) :=
      Latch.leads_raiseIf fun _ => shows.writable.trans writable
    exact { shows with
      raised := (room.latch.raised_raiseIf true).trans (Bool.or_true _)
      writable := (room.latch.writable_raiseIf true).trans shows.writable
      counted := shows.counted.raiseIf true
      leads := shows.leads.trans leads }

theorem Shows.abandon :
    Shows { room with latch := room.latch.abandon } since { switch with writable := false }
      attendance :=
  { shows with
    writable := rfl
    leads := shows.leads.trans (Latch.leads_keepIf _ false) }

theorem Shows.addReader (seen : Nat) :
    (room.addReader seen).1 = .number attendance.readers.length ∧
      (room.addReader seen).2.Shows since switch
        { attendance with readers := attendance.readers ++ [true] } := by
  refine ⟨?_, { shows with readers := ?_ }⟩
  · rw [← shows.readers, List.length_map]
    rfl
  · rw [Room.addReader, List.map_append, shows.readers]
    rfl

theorem Shows.dropReader (reader : Nat) :
    Shows { room with readers := room.readers.set reader none } since switch
      { attendance with readers := attendance.readers.set reader false } := by
  refine { shows with readers := ?_ }
  rw [List.map_set, shows.readers]
  rfl

/-! Those who are not there any more are told so, and nothing else happens. -/

theorem Shows.asWriter (act : Reply × Room) {reply : Reply} {switch' : Switch}
    {attendance' : Attendance}
    (allowed : switch.writable → act.1 = reply ∧ act.2.Shows since switch' attendance') :
    (room.asWriter act).1 = (if switch.writable then reply else .noWriter) ∧
      (room.asWriter act).2.Shows since (if switch.writable then switch' else switch)
        (if switch.writable then attendance' else attendance) := by
  rw [Room.asWriter, shows.writable]
  cases writable : switch.writable with
  | true => exact allowed writable
  | false => exact ⟨rfl, shows⟩

theorem Shows.asReader (reader : Nat) (act : Nat → Reply × Room) {reply : Reply}
    {attendance' : Attendance}
    (allowed : ∀ seen, (act seen).1 = reply ∧ (act seen).2.Shows since switch attendance') :
    (room.asReader reader act).1 = (if attendance.isThere reader then reply else .noReader) ∧
      (room.asReader reader act).2.Shows since switch
        (if attendance.isThere reader then attendance' else attendance) := by
  rw [Room.asReader, shows.isThere]
  cases room.reader? reader with
  | none => exact ⟨rfl, shows⟩
  | some seen => exact allowed seen

end

/-- Whatever the step, a room at rest answers as its switch does, and shows what becomes of it. -/
theorem Shows.act (shows : room.Shows room.latch switch attendance) (step : Step) :
    (room.act step).1 = switch.reply attendance step ∧
      (room.act step).2.Shows room.latch (switch.after step) (attendance.after switch step) := by
  cases step with
  | raise =>
      obtain ⟨moved, raised⟩ := shows.raise
      have acted := shows.asWriter
        (.flag room.latch.raise.1, { room with latch := room.latch.raise.2 })
        fun writable => ⟨congrArg Reply.flag moved, raised writable⟩
      rwa [ite_self] at acted
  | isRaisedForWriter =>
      have acted := shows.asWriter (.flag room.latch.raised, room)
        fun _ => ⟨congrArg Reply.flag shows.raised, shows⟩
      rwa [ite_self, ite_self] at acted
  | dropWriter => exact ⟨congrArg Reply.flag shows.writable, shows.abandon⟩
  | subscribe =>
      have acted := shows.asWriter (room.addReader room.latch.changes)
        fun _ => shows.addReader room.latch.changes
      rwa [ite_self] at acted
  | clone reader => exact shows.asReader reader room.addReader shows.addReader
  | isRaised reader =>
      have acted := shows.asReader reader (fun _ => (.flag room.latch.raised, room))
        fun _ => ⟨congrArg Reply.flag shows.raised, shows⟩
      rwa [ite_self] at acted
  | wait reader =>
      have acted := shows.asReader reader (fun _ => (.ofWait room.latch.wait, room))
        fun _ => ⟨shows.ofWait_wait, shows⟩
      rwa [ite_self] at acted
  | drop reader =>
      exact ⟨congrArg Reply.flag (shows.isThere reader).symm, shows.dropReader reader⟩
  | spawn reader => exact shows.asReader reader _ fun _ => shows.addTask
  | check task => exact ⟨shows.check task, shows⟩

theorem Shows.step (shows : room.Shows room.latch switch attendance) (step : Step) :
    (room.step step).1 = switch.reply attendance step ∧
      (room.step step).2.Shows (room.step step).2.latch (switch.after step)
        (attendance.after switch step) := by
  obtain ⟨reply, acted⟩ := shows.act step
  exact ⟨reply, acted.settle⟩

theorem Shows.run (shows : room.Shows room.latch switch attendance) (steps : List Step) :
    room.run steps = switch.replies attendance steps := by
  induction steps generalizing room switch attendance with
  | nil => rfl
  | cons step steps ih =>
      obtain ⟨reply, later⟩ := shows.step step
      rw [Switch.replies, ← reply, ← ih later]
      rfl

theorem Shows.follow (shows : room.Shows room.latch switch attendance) (steps : List Step) :
    ∃ attendance', (room.follow steps).Shows (room.follow steps).latch (switch.follow steps)
      attendance' := by
  induction steps generalizing room switch attendance with
  | nil => exact ⟨attendance, shows⟩
  | cons step steps ih => exact ih (shows.step step).2

theorem tasks_act (room : Room) (step : Step) : room.tasks <+: (room.act step).2.tasks := by
  have asWriter (act : Reply × Room) (kept : room.tasks <+: act.2.tasks) :
      room.tasks <+: (room.asWriter act).2.tasks := by
    unfold Room.asWriter
    split
    · exact kept
    · exact List.prefix_rfl
  have asReader (reader : Nat) (act : Nat → Reply × Room)
      (kept : ∀ seen, room.tasks <+: (act seen).2.tasks) :
      room.tasks <+: (room.asReader reader act).2.tasks := by
    unfold Room.asReader
    split
    · exact kept _
    · exact List.prefix_rfl
  cases step with
  | raise => exact asWriter _ List.prefix_rfl
  | isRaisedForWriter => exact asWriter _ List.prefix_rfl
  | subscribe => exact asWriter _ List.prefix_rfl
  | clone reader => exact asReader reader _ fun _ => List.prefix_rfl
  | isRaised reader => exact asReader reader _ fun _ => List.prefix_rfl
  | wait reader => exact asReader reader _ fun _ => List.prefix_rfl
  | spawn reader => exact asReader reader _ fun _ => List.prefix_append ..
  | _ => exact List.prefix_rfl

/-- A task that was told something is never told anything else. -/
theorem tasks_follow (room : Room) {task : Nat} {told : Bool}
    (ended : room.tasks[task]? = some (.over told)) (more : List Step) :
    (room.follow more).tasks[task]? = some (.over told) := by
  induction more generalizing room with
  | nil => exact ended
  | cons step more ih =>
      refine ih _ ?_
      have acted : (room.act step).2.tasks[task]? = some (.over told) := by
        obtain ⟨spawned, same⟩ := room.tasks_act step
        obtain ⟨known, -⟩ := List.getElem?_eq_some_iff.mp ended
        rw [← same, List.getElem?_append_left known, ended]
      show ((room.act step).2.tasks.map (room.act step).2.latch.poll)[task]? = _
      rw [List.getElem?_map, acted]
      rfl

/-- Whatever is done to a latch by its writer, its readers and those who wait, in whatever order:
they are answered from two bits, which only the writer moves. -/
theorem told_by_switch (steps : List Step) :
    let room : Room := follow {} steps
    let switch : Switch := .follow {} steps
    ({} : Room).run steps = ({} : Switch).replies {} steps ∧
      room.latch.raised = switch.raised ∧ room.latch.writable = switch.writable ∧
      room.latch.wait.result? = switch.told? ∧
      (∀ wait ∈ room.tasks, wait.result? = switch.told?) ∧
      (steps.zip (({} : Room).run steps)).count (.raise, .flag true) = switch.raised.toNat ∧
      ∀ (more : List Step) (task : Nat) (told : Bool), room.tasks[task]? = some (.over told) →
        (room.follow more).tasks[task]? = some (.over told) := by
  intro room switch
  obtain ⟨attendance, shows⟩ := shows_new.follow steps
  have replies := shows_new.run steps
  refine ⟨replies, shows.raised, shows.writable, shows.result?_wait, fun wait member => ?_, ?_,
    fun more task told ended => room.tasks_follow ended more⟩
  · rw [shows.tasks] at member
    rw [List.eq_of_mem_replicate member]
    exact shows.result?_wait
  · rw [replies]
    exact Switch.count_moves {} {} steps

/-- A task that waits through the going of its reader and is told of the raise, and readers that
come after the writer has gone. -/
theorem told_by_switch_past_dropped_reader :
    let steps : List Step :=
      [.spawn 0, .subscribe, .drop 0, .raise, .raise, .dropWriter, .clone 1, .wait 2, .check 0]
    let room : Room := follow {} steps
    ({} : Room).run steps =
        [.number 0, .number 1, .flag true, .flag true, .flag false, .flag true, .number 2,
          .flag true, .flag true] ∧
      room.tasks[0]? = some (.over true) ∧
      ∀ more, (room.follow more).tasks[0]? = some (.over true) := by
  intro steps room
  have ended : room.tasks[0]? = some (.over true) := by decide
  obtain ⟨replies, -, -, -, -, -, keeps⟩ := told_by_switch steps
  refine ⟨?_, ended, fun more => keeps more 0 true ended⟩
  rw [replies]
  decide

end Room

end Heartbeat.Signal
