import Heartbeat.Signal.Latch

/-!
What may become of a latch, and of those who wait for it. A wait that is over was told what every
later one is told.
-/

namespace Heartbeat.Latch

/-- From one latch to a later one. What was raised stays so, and only its writer raises it. -/
structure Leads (latch later : Latch) : Prop where
  raised : latch.raised → later.raised
  writer : later.raised → latch.raised ∨ latch.writable
  writable : later.writable → latch.writable

/-- A latch that was raised once has changed once, and another one has not changed. -/
def Counted (latch : Latch) : Prop :=
  latch.changes = if latch.raised then 1 else 0

variable {latch later : Latch}

theorem Leads.refl (latch : Latch) : latch.Leads latch :=
  ⟨id, .inl, id⟩

theorem Leads.trans {last : Latch} (first : latch.Leads later) (second : later.Leads last) :
    latch.Leads last where
  raised up := second.raised (first.raised up)
  writer up := (second.writer up).elim first.writer fun writable =>
    .inr (first.writable writable)
  writable writable := first.writable (second.writable writable)

/-- A latch that somebody may have said to raise. -/
def raiseIf (latch : Latch) (said : Bool) : Latch :=
  if said then latch.raise.2 else latch

/-- A latch whose writer may have gone. -/
def keepIf (latch : Latch) (owned : Bool) : Latch :=
  if owned then latch else latch.abandon

@[simp] theorem raised_raiseIf (latch : Latch) (said : Bool) :
    (latch.raiseIf said).raised = (latch.raised || said) := by
  unfold raiseIf raise
  cases said <;> cases up : latch.raised <;> simp [up]

@[simp] theorem writable_raiseIf (latch : Latch) (said : Bool) :
    (latch.raiseIf said).writable = latch.writable := by
  unfold raiseIf raise
  cases said <;> cases latch.raised <;> rfl

theorem raiseIf_raiseIf (latch : Latch) (said again : Bool) :
    (latch.raiseIf said).raiseIf again = latch.raiseIf (said || again) := by
  unfold raiseIf raise
  cases said <;> cases again <;> cases up : latch.raised <;> simp [up]

theorem leads_raiseIf {said : Bool} (writable : said → latch.writable) :
    latch.Leads (latch.raiseIf said) where
  raised up := by rw [raised_raiseIf, up, Bool.true_or]
  writer up := by
    rw [raised_raiseIf, Bool.or_eq_true] at up
    exact up.imp_right writable
  writable still := latch.writable_raiseIf said ▸ still

theorem Counted.raiseIf (counted : latch.Counted) (said : Bool) :
    (latch.raiseIf said).Counted := by
  unfold Counted at counted ⊢
  unfold Latch.raiseIf raise
  cases said <;> cases up : latch.raised <;> simp [up] at counted ⊢ <;> exact counted

@[simp] theorem raised_keepIf (latch : Latch) (owned : Bool) :
    (latch.keepIf owned).raised = latch.raised := by
  cases owned <;> rfl

@[simp] theorem writable_keepIf (latch : Latch) (owned : Bool) :
    (latch.keepIf owned).writable = (latch.writable && owned) := by
  cases owned
  · exact (Bool.and_false _).symm
  · exact (Bool.and_true _).symm

@[simp] theorem keepIf_keepIf (latch : Latch) (owned : Bool) :
    (latch.keepIf owned).keepIf owned = latch.keepIf owned := by
  cases owned <;> rfl

theorem keepIf_of_owned {owned : Bool} (same : latch.writable = owned) :
    latch.keepIf owned = latch := by
  subst same
  obtain ⟨raised, changes, writable⟩ := latch
  cases writable <;> rfl

theorem leads_keepIf (latch : Latch) (owned : Bool) : latch.Leads (latch.keepIf owned) where
  raised up := by rwa [raised_keepIf]
  writer up := by
    rw [raised_keepIf] at up
    exact .inl up
  writable still := by
    rw [writable_keepIf, Bool.and_eq_true] at still
    exact still.1

theorem Counted.keepIf (counted : latch.Counted) (owned : Bool) :
    (latch.keepIf owned).Counted := by
  cases owned <;> exact counted

/-! Waiting -/

theorem result?_wait (latch : Latch) :
    latch.wait.result? =
      if latch.raised then some true else if latch.writable then none else some false := by
  unfold wait
  split
  · rfl
  · split <;> rfl

theorem wait_eq_over {told : Bool} : latch.wait = .over told ↔ latch.wait.result? = some told := by
  rcases latch.wait with seen | raised
  · exact ⟨nofun, nofun⟩
  · refine ⟨?_, ?_⟩
    · rintro ⟨⟩
      rfl
    · rintro ⟨⟩
      rfl

theorem Leads.wait (leads : latch.Leads later) {told : Bool} (ended : latch.wait = .over told) :
    later.wait = .over told := by
  rw [wait_eq_over, result?_wait] at ended ⊢
  by_cases up : latch.raised = true
  · rw [if_pos up] at ended
    rwa [if_pos (leads.raised up)]
  · rw [if_neg up] at ended
    by_cases writable : latch.writable = true
    · rw [if_pos writable] at ended
      cases ended
    · rw [if_neg writable] at ended
      have lowered : ¬ later.raised = true := fun later =>
        (leads.writer later).elim up writable
      rwa [if_neg lowered, if_neg fun still => writable (leads.writable still)]

/-- A wait that is over knows the end of the matter. Another one has not seen any change. -/
def Keeps (latch : Latch) (wait : Wait) : Prop :=
  wait = .parked 0 ∨ ∃ told, wait = .over told ∧ latch.wait = .over told

theorem Keeps.leads {wait : Wait} (keeps : latch.Keeps wait) (leads : latch.Leads later) :
    later.Keeps wait :=
  keeps.imp_right fun ⟨told, ended, same⟩ => ⟨told, ended, leads.wait same⟩

theorem Keeps.result? {wait : Wait} (keeps : latch.Keeps wait) {told : Bool}
    (ended : wait.result? = some told) : latch.wait.result? = some told := by
  obtain rfl | ⟨told', rfl, same⟩ := keeps
  · cases ended
  · cases ended
    exact wait_eq_over.mp same

theorem Counted.keeps_wait (counted : latch.Counted) : latch.Keeps latch.wait := by
  rcases same : latch.wait with seen | told
  · left
    unfold wait at same
    split at same
    · cases same
    · rename_i lowered
      split at same
      · cases same
        rw [counted, if_neg lowered]
      · cases same
  · exact .inr ⟨told, rfl, same⟩

/-- A task that is polled learns what a new wait would. -/
theorem Counted.poll_eq_wait (counted : latch.Counted) {wait : Wait} (keeps : latch.Keeps wait) :
    latch.poll wait = latch.wait := by
  obtain rfl | ⟨told, rfl, ended⟩ := keeps
  · rw [poll]
    by_cases changed : latch.changes ≠ 0
    · rw [if_pos changed]
    · have lowered : ¬ latch.raised = true := fun up => by
        rw [counted, if_pos up] at changed
        exact changed Nat.one_ne_zero
      rw [if_neg changed, Latch.wait, if_neg lowered, Classical.not_not.mp changed]
  · exact ended.symm

end Heartbeat.Latch
