import Heartbeat.Proofs.Channel.Scenario

/-!
A channel of which nothing is known but how its calls end, each for itself and for ever: preparing,
dialing and closing take their cues from lists without an end, at whatever rate they are called.
-/

namespace Heartbeat

structure Prospects where
  prepared : Bool := false
  dialed : Bool := false
  preparing : Nat → Cue
  dialing : Nat → Cue
  closing : Nat → Cue

namespace Prospects

def prepare (prospects : Prospects) : Answer Prospects Reaction :=
  ⟨(prospects.preparing 0).reaction,
    { prospects with
      prepared := prospects.preparing 0 = .succeed || prospects.prepared
      preparing := fun n => prospects.preparing (n + 1) }, []⟩

def dial (prospects : Prospects) : Answer Prospects Reaction :=
  ⟨(prospects.dialing 0).reaction,
    { prospects with
      dialed := prospects.dialing 0 = .succeed || prospects.dialed
      dialing := fun n => prospects.dialing (n + 1) }, []⟩

/-- Closing takes both marks away, even if it fails. -/
def close (prospects : Prospects) : Answer Prospects Reaction :=
  ⟨(prospects.closing 0).reaction,
    { prospects with
      prepared := false
      dialed := false
      closing := fun n => prospects.closing (n + 1) }, []⟩

instance : Channel Prospects where
  prepare _ := prepare
  dial _ := dial
  send _ prospects := ⟨.done, prospects, []⟩
  receive prospects := ⟨.waiting, prospects, []⟩
  close := close
  isPrepared := prepared
  isDialed := dialed

/-- No call brings its caller down. -/
structure Calm (prospects : Prospects) : Prop where
  preparing : ∀ n, prospects.preparing n ≠ .crash
  dialing : ∀ n, prospects.dialing n ≠ .crash
  closing : ∀ n, prospects.closing n ≠ .crash

/-- From some call on, preparing succeeds, and from some other call on, dialing succeeds and is
marked. -/
structure Brightens (prospects : Prospects) (preparing dialing : Nat) : Prop where
  preparing : ∀ n ≥ preparing, ∀ fault, prospects.preparing n ≠ .fail fault
  dialing : ∀ n ≥ dialing, prospects.dialing n = .succeed

variable {prospects : Prospects} {preparing dialing : Nat}

theorem Calm.prepare (calm : prospects.Calm) : prospects.prepare.state.Calm :=
  ⟨fun n => calm.preparing (n + 1), calm.dialing, calm.closing⟩

theorem Calm.dial (calm : prospects.Calm) : prospects.dial.state.Calm :=
  ⟨calm.preparing, fun n => calm.dialing (n + 1), calm.closing⟩

theorem Calm.close (calm : prospects.Calm) : prospects.close.state.Calm :=
  ⟨calm.preparing, calm.dialing, fun n => calm.closing (n + 1)⟩

/-- A prepare that fails was not the last one that may. -/
theorem Brightens.preparing_pos (brightens : prospects.Brightens preparing dialing)
    (failed : prospects.prepare.result = .failed fault) : 0 < preparing := by
  refine Nat.pos_of_ne_zero fun none => ?_
  exact brightens.preparing 0 (Nat.le_of_eq none) _ (Cue.eq_fail_of_reaction failed)

theorem Brightens.dialing_pos (brightens : prospects.Brightens preparing dialing)
    (spoken : prospects.dialing 0 ≠ .succeed) : 0 < dialing := by
  refine Nat.pos_of_ne_zero fun none => ?_
  exact spoken (brightens.dialing 0 (Nat.le_of_eq none))

theorem Brightens.prepare (brightens : prospects.Brightens preparing dialing) :
    prospects.prepare.state.Brightens (preparing - 1) dialing where
  preparing n late := brightens.preparing (n + 1) (by omega)
  dialing := brightens.dialing

theorem Brightens.dial (brightens : prospects.Brightens preparing dialing) :
    prospects.dial.state.Brightens preparing (dialing - 1) where
  preparing := brightens.preparing
  dialing n late := brightens.dialing (n + 1) (by omega)

theorem Brightens.close (brightens : prospects.Brightens preparing dialing) :
    prospects.close.state.Brightens preparing dialing :=
  ⟨brightens.preparing, brightens.dialing⟩

end Prospects

end Heartbeat
