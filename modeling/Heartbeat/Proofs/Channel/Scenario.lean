import Heartbeat.Channel.Script

/-!
A channel that acts out a scenario: a script whose lines for receives, sends and closes never run
out, and are chosen once and for all. Attempts to connect have finitely many lines, and succeed
after the last of them. A receive that meets silence stays there.
-/

namespace Heartbeat

namespace Cue

theorem eq_fail_of_reaction {cue : Cue} (failed : cue.reaction = .failed fault) :
    cue = .fail fault := by
  cases cue with
  | fail why =>
      cases failed
      rfl
  | _ => cases failed

theorem eq_crash_of_reaction {cue : Cue} (crashed : cue.reaction = .crashed) : cue = .crash := by
  cases cue with
  | crash => rfl
  | _ => cases crashed

theorem ne_succeed_of_failed {cue : Cue} (failed : cue.reaction = .failed fault) :
    cue ≠ .succeed := by
  rintro rfl
  cases failed

theorem reaction_of_ne_crash {cue : Cue} (calm : cue ≠ .crash) :
    cue.reaction = .done ∨ ∃ why, cue = .fail why ∧ cue.reaction = .failed why := by
  cases cue with
  | succeed => exact .inl rfl
  | succeedUnmarked => exact .inl rfl
  | fail why => exact .inr ⟨why, rfl, rfl⟩
  | crash => exact absurd rfl calm

theorem next_ne_crash {cues : List Cue} (calm : ∀ cue ∈ cues, cue ≠ .crash) :
    next cues ≠ .crash := by
  cases cues with
  | nil => exact Cue.noConfusion
  | cons cue cues => exact calm cue List.mem_cons_self

theorem length_tail_lt_of_next {cues : List Cue} (spoken : next cues ≠ .succeed) :
    cues.tail.length < cues.length := by
  cases cues with
  | nil => exact absurd rfl spoken
  | cons cue cues => exact Nat.lt_succ_self _

end Cue

structure Scenario where
  prepared : Bool := false
  dialed : Bool := false
  preparing : List Cue := []
  dialing : List Cue := []
  arrivals : Nat → Arrival
  sending : Nat → Cue
  closing : Nat → Cue

namespace Arrival

def reception : Arrival → Reception
  | .datagram bytes => .datagram bytes
  | .fault why => .failed why
  | .silence => .waiting
  | .crash => .crashed

def isFault : Arrival → Bool
  | .fault _ => true
  | _ => false

end Arrival

namespace Scenario

def prepare (scenario : Scenario) : Answer Scenario Reaction :=
  let cue := Cue.next scenario.preparing
  ⟨cue.reaction,
    { scenario with
      prepared := cue = .succeed || scenario.prepared
      preparing := scenario.preparing.tail }, []⟩

def dial (scenario : Scenario) : Answer Scenario Reaction :=
  let cue := Cue.next scenario.dialing
  ⟨cue.reaction,
    { scenario with
      dialed := cue = .succeed || scenario.dialed
      dialing := scenario.dialing.tail }, []⟩

def send (scenario : Scenario) : Answer Scenario Reaction :=
  ⟨(scenario.sending 0).reaction,
    { scenario with sending := fun n => scenario.sending (n + 1) }, []⟩

def hear (scenario : Scenario) : Scenario :=
  { scenario with arrivals := fun n => scenario.arrivals (n + 1) }

def receive (scenario : Scenario) : Answer Scenario Reception :=
  if scenario.arrivals 0 = .silence then ⟨.waiting, scenario, []⟩
  else ⟨(scenario.arrivals 0).reception, scenario.hear, []⟩

def close (scenario : Scenario) : Answer Scenario Reaction :=
  ⟨(scenario.closing 0).reaction,
    { scenario with
      prepared := false
      dialed := false
      closing := fun n => scenario.closing (n + 1) }, []⟩

instance : Channel Scenario where
  prepare _ := prepare
  dial _ := dial
  send _ := send
  receive := receive
  close := close
  isPrepared := prepared
  isDialed := dialed

theorem receive_of_heard {scenario : Scenario} (heard : scenario.arrivals 0 = arrival)
    (sound : arrival ≠ .silence) :
    scenario.receive = ⟨arrival.reception, scenario.hear, []⟩ := by
  subst heard
  exact if_neg sound

theorem receive_of_silence {scenario : Scenario} (silence : scenario.arrivals 0 = .silence) :
    scenario.receive = ⟨.waiting, scenario, []⟩ :=
  if_pos silence

/-- No call brings its caller down. -/
structure Calm (scenario : Scenario) : Prop where
  preparing : ∀ cue ∈ scenario.preparing, cue ≠ .crash
  dialing : ∀ cue ∈ scenario.dialing, cue ≠ .crash
  arrivals : ∀ n, scenario.arrivals n ≠ .crash
  sending : ∀ n, scenario.sending n ≠ .crash
  closing : ∀ n, scenario.closing n ≠ .crash

/-- A scenario in which every call succeeds and only what is received matters. -/
def ofArrivals (arrivals : Nat → Arrival) : Scenario where
  arrivals := arrivals
  sending _ := .succeed
  closing _ := .succeed

theorem calm_ofArrivals {arrivals : Nat → Arrival} (calm : ∀ n, arrivals n ≠ .crash) :
    (ofArrivals arrivals).Calm where
  preparing _ member := absurd member List.not_mem_nil
  dialing _ member := absurd member List.not_mem_nil
  arrivals := calm
  sending _ := Cue.noConfusion
  closing _ := Cue.noConfusion

def lines (scenario : Scenario) : Nat :=
  scenario.preparing.length + scenario.dialing.length

end Scenario

end Heartbeat
