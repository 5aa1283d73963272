import Heartbeat.Responder.Event

/-!
Work that is done turn by turn on a channel, and runs of such turns. A run ends when the work is
done, when it has to wait, or when it has taken more turns than it was given.
-/

namespace Heartbeat

/-- What becomes of the one who makes a turn. One who waits will make the same turn again. -/
inductive Verdict (σ α : Type) where
  | go (state : σ)
  | finished (value : α)
  | waiting
  | crashed
deriving DecidableEq

namespace Verdict

def goesOn : Verdict σ α → Bool
  | .go _ => true
  | _ => false

def map (f : σ → τ) : Verdict σ α → Verdict τ α
  | .go state => .go (f state)
  | .finished value => .finished value
  | .waiting => .waiting
  | .crashed => .crashed

section

variable (f : σ → τ)

@[simp] theorem map_go (state : σ) : (go state : Verdict σ α).map f = .go (f state) := rfl

@[simp] theorem map_finished (value : α) : (finished value).map f = .finished value := rfl

@[simp] theorem map_waiting : (waiting : Verdict σ α).map f = .waiting := rfl

@[simp] theorem map_crashed : (crashed : Verdict σ α).map f = .crashed := rfl

end

end Verdict

structure Turn (C σ α : Type) where
  verdict : Verdict σ α
  channel : C
  events : List Event := []

/-- The last turn of a run, all events up to it and the time on the clock at its end. -/
structure Run (C σ α : Type) where
  state : σ
  verdict : Verdict σ α
  channel : C
  events : List Event
  tick : Nat

def Run.after (events : List Event) (run : Run C σ α) : Run C σ α :=
  { run with events := events ++ run.events }

/-- Makes turns up to a time, or as long as they go on by themselves. A state that waits for a
time goes on at that time. -/
def runTurns (step : Nat → σ → C → Turn C σ α) (wake? : σ → Option Nat) (horizon : Option Nat)
    (fuel tick : Nat) (state : σ) (channel : C) : Run C σ α :=
  match fuel with
  | 0 => ⟨state, .go state, channel, [], tick⟩
  | fuel + 1 =>
      let turn := step tick state channel
      match turn.verdict, wake? state with
      | .go next, _ =>
          (runTurns step wake? horizon fuel tick next turn.channel).after turn.events
      | .waiting, some wake =>
          if horizon.all (wake ≤ ·) then
            (runTurns step wake? horizon fuel (max tick wake) state turn.channel).after
              turn.events
          else ⟨state, .waiting, turn.channel, turn.events, tick⟩
      | verdict, _ => ⟨state, verdict, turn.channel, turn.events, tick⟩

end Heartbeat
