import Heartbeat.Proofs.Responder.Course
import Mathlib.Data.List.Forall2

/-!
Two channels that hear the same. Responders on them do the same at the same points, though what
becomes of their sends may differ, and each of their replies bears a date of its own.
-/

namespace Heartbeat

/-- Channels on which receives bring the same, and no send or close brings its caller down. -/
structure Channel.Follows [Channel C] [Channel D] (Like : C → D → Prop) : Prop where
  send : ∀ bytes bytes' c d, Like c d →
    (send bytes c).result ≠ .crashed ∧ (send bytes' d).result ≠ .crashed ∧
      Like (send bytes c).state (send bytes' d).state
  receive : ∀ c d, Like c d →
    (receive c).result = (receive d).result ∧ Like (receive c).state (receive d).state
  close : ∀ c d, Like c d → (close c).result ≠ .crashed ∧ (close d).result ≠ .crashed

/-- The same event in the same turn of two runs, save that each run dates its replies by its own
clock. -/
inductive Responder.Restamps (responder : Responder) (clock clock' : Clock) :
    Event → Event → Prop
  | reply (turn : Nat) : Restamps responder clock clock'
      (.call (.send (responder.replyBytes (clock turn))))
      (.call (.send (responder.replyBytes (clock' turn))))
  | same (other : ∀ bytes, event ≠ .call (.send bytes)) :
      Restamps responder clock clock' event event

/-- Whether the channel has been connected. -/
def Phase.isUp : Phase → Bool
  | .starting => false
  | .connecting _ => false
  | _ => true

theorem Responder.wake?_of_isUp {phase : Phase} (up : phase.isUp) (turn : Nat) :
    wake? ⟨phase, turn⟩ = none := by
  cases phase with
  | connecting attempt => exact absurd up Bool.false_ne_true
  | _ => rfl

/-! Turns -/

section

variable {C D : Type} {Like : C → D → Prop} {Same : Event → Event → Prop}

/-- Two turns that may differ in what only the program sees. Others see the same. -/
structure Turn.Refines (Like : C → D → Prop) (Same : Event → Event → Prop)
    (turn : Turn C Phase Exit) (turn' : Turn D Phase Exit) : Prop where
  verdict : turn.verdict = turn'.verdict
  seen : List.Forall₂ Same (outward turn.events) (outward turn'.events)
  goes : ∀ phase, turn'.verdict = .go phase → phase.isUp ∧ Like turn.channel turn'.channel

namespace Responder

variable (responder : Responder) (date date' : Calendar.Instant)

theorem outward_notices (notices : List Notice) : outward (notices.map .notice) = [] :=
  List.filter_eq_nil_iff.mpr fun event member => by
    obtain ⟨notice, -, rfl⟩ := List.mem_map.mp member
    exact Bool.false_ne_true

theorem outward_ofAnswer (call : Call) (notices : List Notice) :
    outward (Event.ofAnswer call notices) = [.call call] := by
  rw [Event.ofAnswer, outward_call, outward_notices]

theorem accept_refines (budget : Budget) (datagram : Bytes) :
    (responder.accept date budget datagram).1 = (responder.accept date' budget datagram).1 ∧
      (responder.accept date budget datagram).1.isUp ∧
      ∀ date, outward (responder.accept date budget datagram).2 = [] := by
  have same := Envelope.isOk_decodeExpecting date date' responder.role.request datagram
  refine ⟨?_, ?_, fun date => ?_⟩
  · unfold accept
    cases taken : Envelope.decodeExpecting date responder.role.request datagram with
    | ok request =>
        cases taken' : Envelope.decodeExpecting date' responder.role.request datagram with
        | ok request' => rfl
        | error fault =>
            rw [taken, taken'] at same
            cases same
    | error fault =>
        cases taken' : Envelope.decodeExpecting date' responder.role.request datagram with
        | ok request =>
            rw [taken, taken'] at same
            cases same
        | error fault' => rfl
  · unfold accept
    split <;> rfl
  · unfold accept
    split <;> rfl

theorem failReceive_up (budget : Budget) (fault : ChannelFault) :
    (responder.failReceive budget fault).1.isUp ∧
      (∀ budget', (responder.failReceive budget fault).1 ≠ .replying budget') ∧
      outward (responder.failReceive budget fault).2 = [] := by
  unfold failReceive
  simp only
  split
  · exact ⟨rfl, fun _ => Phase.noConfusion, rfl⟩
  · exact ⟨rfl, fun _ => Phase.noConfusion, rfl⟩

theorem conclude_up (budget : Budget) :
    (responder.conclude budget).1.isUp ∧
      ∀ budget', (responder.conclude budget).1 ≠ .replying budget' := by
  unfold conclude
  cases responder.role with
  | health => exact ⟨rfl, fun _ => Phase.noConfusion⟩
  | termination => exact ⟨rfl, fun _ => Phase.noConfusion⟩

section

variable (clock clock' : Clock)

/-- Events without a send are the same in any two runs. -/
theorem restamps_of_quiet {events : List Event}
    (quiet : ∀ bytes, .call (.send bytes) ∉ events) :
    List.Forall₂ (responder.Restamps clock clock') events events :=
  List.forall₂_same.mpr fun _ member =>
    .same fun bytes sends => quiet bytes (sends ▸ member)

theorem restamps_conclusion (role : Role) :
    List.Forall₂ (responder.Restamps clock clock') role.conclusion role.conclusion := by
  refine restamps_of_quiet _ _ _ fun bytes => ?_
  cases role <;> simp [Role.conclusion]

end

variable [Channel C] [Channel D]

theorem outward_receive (budget : Budget) (c : C) :
    outward (responder.receive date budget c).events = [] := by
  unfold receive
  simp only
  cases (Channel.receive c).result with
  | datagram datagram =>
      obtain ⟨-, -, quiet⟩ := responder.accept_refines date date budget datagram
      simp only [outward_append, outward_notices, quiet, List.append_nil]
  | failed fault =>
      obtain ⟨-, -, quiet⟩ := responder.failReceive_up budget fault
      simp only [outward_append, outward_notices, quiet, List.append_nil]
  | waiting => exact outward_notices _
  | crashed => exact outward_notices _

theorem receive_refines (follows : Channel.Follows Like) (budget : Budget) {c : C} {d : D}
    (like : Like c d) :
    (responder.receive date budget c).Refines Like Same (responder.receive date' budget d) := by
  obtain ⟨result, state⟩ := follows.receive c d like
  have seen : List.Forall₂ Same (outward (responder.receive date budget c).events)
      (outward (responder.receive date' budget d).events) := by
    rw [outward_receive, outward_receive]
    exact .nil
  suffices same : (responder.receive date budget c).verdict =
      (responder.receive date' budget d).verdict ∧
      ∀ phase, (responder.receive date' budget d).verdict = .go phase → phase.isUp ∧
        Like (responder.receive date budget c).channel (responder.receive date' budget d).channel by
    exact ⟨same.1, seen, same.2⟩
  unfold receive
  simp only [result]
  cases (Channel.receive d).result with
  | datagram datagram =>
      obtain ⟨phase, up, -⟩ := responder.accept_refines date date' budget datagram
      rw [phase] at up
      refine ⟨congrArg Verdict.go phase, ?_⟩
      rintro _ ⟨⟩
      exact ⟨up, state⟩
  | failed fault =>
      refine ⟨rfl, ?_⟩
      rintro _ ⟨⟩
      exact ⟨(responder.failReceive_up budget fault).1, state⟩
  | waiting => exact ⟨rfl, nofun⟩
  | crashed => exact ⟨rfl, nofun⟩

/-- A send is seen with the bytes that are sent, whatever comes of it. -/
theorem reply_of_not_crashed (budget : Budget) {c : C}
    (stands : (Channel.send (responder.replyBytes date) c).result ≠ .crashed) :
    ∃ events, responder.reply date budget c =
        ⟨.go (responder.conclude budget).1,
          (Channel.send (responder.replyBytes date) c).state, events⟩ ∧
      outward events =
        .call (.send (responder.replyBytes date)) :: responder.role.conclusion := by
  rw [← responder.outward_conclude budget]
  unfold reply
  change (Channel.send (responder.role.reply responder.identity date).encode c).result ≠ _ at stands
  simp only
  cases result : (Channel.send (responder.role.reply responder.identity date).encode c).result with
  | done =>
      refine ⟨_, rfl, ?_⟩
      rw [outward_append, outward_ofAnswer]
      rfl
  | failed fault =>
      refine ⟨_, rfl, ?_⟩
      rw [outward_append, outward_ofAnswer]
      rfl
  | crashed => exact absurd result stands

theorem reply_refines (follows : Channel.Follows Like) (clock clock' : Clock) (turn : Nat)
    (budget : Budget) {c : C} {d : D} (like : Like c d) :
    (responder.reply (clock turn) budget c).Refines Like (responder.Restamps clock clock')
      (responder.reply (clock' turn) budget d) := by
  obtain ⟨stands, stands', state⟩ := follows.send (responder.replyBytes (clock turn))
    (responder.replyBytes (clock' turn)) c d like
  obtain ⟨events, replied, seen⟩ := responder.reply_of_not_crashed (clock turn) budget stands
  obtain ⟨events', replied', seen'⟩ := responder.reply_of_not_crashed (clock' turn) budget stands'
  rw [replied, replied']
  refine ⟨rfl, ?_, ?_⟩
  · rw [seen, seen']
    exact .cons (.reply turn) (responder.restamps_conclusion clock clock' _)
  · rintro _ ⟨⟩
    exact ⟨(responder.conclude_up budget).1, state⟩

theorem close_of_not_crashed (exit : Exit) {c : C}
    (stands : (Channel.close c).result ≠ .crashed) :
    ∃ events, responder.close exit c = ⟨.finished exit, (Channel.close c).state, events⟩ ∧
      outward events = [.call .close] := by
  unfold close
  simp only
  cases result : (Channel.close c).result with
  | done => exact ⟨_, rfl, outward_ofAnswer ..⟩
  | failed fault =>
      refine ⟨_, rfl, ?_⟩
      rw [outward_append, outward_ofAnswer]
      rfl
  | crashed => exact absurd result stands

theorem close_refines (follows : Channel.Follows Like) (clock clock' : Clock) (exit : Exit) {c : C}
    {d : D} (like : Like c d) :
    (responder.close exit c).Refines Like (responder.Restamps clock clock')
      (responder.close exit d) := by
  obtain ⟨stands, stands'⟩ := follows.close c d like
  obtain ⟨events, closed, seen⟩ := responder.close_of_not_crashed exit stands
  obtain ⟨events', closed', seen'⟩ := responder.close_of_not_crashed exit stands'
  rw [closed, closed']
  refine ⟨rfl, ?_, nofun⟩
  rw [seen, seen']
  exact responder.restamps_of_quiet clock clock' (by simp)

variable (clock clock' : Clock)

theorem step_refines (follows : Channel.Follows Like) (tick tick' turn : Nat) {phase : Phase}
    (up : phase.isUp) {c : C} {d : D} (like : Like c d) :
    (responder.step (clock turn) tick phase c).Refines Like (responder.Restamps clock clock')
      (responder.step (clock' turn) tick' phase d) := by
  cases phase with
  | starting => exact absurd up Bool.false_ne_true
  | connecting attempt => exact absurd up Bool.false_ne_true
  | listening budget =>
      have quiet : ∀ bytes, Event.call (.send bytes) ∉ [Event.call .receive] := by simp
      refine ⟨rfl, responder.restamps_of_quiet clock clock' quiet, ?_⟩
      rintro _ ⟨⟩
      exact ⟨rfl, like⟩
  | receiving budget => exact responder.receive_refines _ _ follows budget like
  | replying budget => exact responder.reply_refines follows clock clock' turn budget like
  | closing exit => exact responder.close_refines follows clock clock' exit like

/-- From where both channels are up, the two runs come to the same, whatever fuel they have. The
first one may be some turns ahead. -/
theorem run_refines (follows : Channel.Follows Like) (fuel tick tick' ahead turn : Nat)
    {phase : Phase} (up : phase.isUp) {c : C} {d : D} (like : Like c d) :
    let run := runTurns (responder.turn clock) wake? none fuel tick ⟨phase, turn + ahead⟩ c
    let run' := runTurns (responder.turn clock') wake? none fuel tick' ⟨phase, turn⟩ d
    Status.ofVerdict run.state.phase (run.verdict.map Post.phase) =
        .ofVerdict run'.state.phase (run'.verdict.map Post.phase) ∧
      List.Forall₂ (responder.Restamps (fun turn => clock (turn + ahead)) clock')
        (outward run.events) (outward run'.events) := by
  induction fuel generalizing phase turn c d with
  | zero => exact ⟨rfl, .nil⟩
  | succ fuel ih =>
      obtain ⟨verdict, seen, goes⟩ := responder.step_refines (fun turn => clock (turn + ahead))
        clock' follows tick tick' turn up like
      simp only [runTurns, Responder.turn, verdict, wake?_of_isUp up]
      cases made : (responder.step (clock' turn) tick' phase d).verdict with
      | go next =>
          obtain ⟨up', like'⟩ := goes next made
          obtain ⟨status, seen'⟩ := ih (turn + 1) up' like'
          rw [Nat.add_right_comm] at status seen'
          refine ⟨status, ?_⟩
          simp only [Verdict.map_go, Run.after, outward_append]
          exact List.rel_append seen seen'
      | finished exit => exact ⟨rfl, seen⟩
      | waiting => exact ⟨rfl, seen⟩
      | crashed => exact ⟨rfl, seen⟩

end Responder

end

/-- On a channel that is down, and whose first attempt to connect succeeds. -/
theorem Responder.leads_of_first_attempt [Channel C] (responder : Responder) (clock : Clock)
    (tick : Nat) {c c' c'' : C} {notices notices' : List Notice}
    (down : Channel.isDialed c = false)
    (prepared : Channel.prepare responder.connector.endpoint c = ⟨.done, c', notices⟩)
    (dialed : Channel.dial responder.connector.endpoint c' = ⟨.done, c'', notices'⟩)
    (up : Channel.isDialed c'' = true) :
    ∃ events, Goes (responder.turn clock) wake? none 4 ⟨tick, {}, c⟩ events
        ⟨tick, ⟨responder.listen, 4⟩, c''⟩ ∧
      outward events =
        .call (.prepare responder.connector.endpoint) ::
          .call (.dial responder.connector.endpoint) :: responder.role.greeting := by
  have first : responder.step (clock 0) tick .starting c = ⟨.go (.connecting {}), c, []⟩ := by
    rw [step, start, down, Bool.and_false, if_neg Bool.false_ne_true]
  have second : responder.step (clock 1) tick (.connecting {}) c =
      ⟨.go (.connecting ⟨0, .dialing⟩), c',
        Event.ofAnswer (.prepare responder.connector.endpoint) notices⟩ := by
    simp only [step, connect, Connector.step, down, prepared, Connector.advance]
    rfl
  have third : responder.step (clock 2) tick (.connecting ⟨0, .dialing⟩) c' =
      ⟨.go (.connecting ⟨0, .checking⟩), c'',
        Event.ofAnswer (.dial responder.connector.endpoint) notices'⟩ := by
    simp only [step, connect, Connector.step, dialed, Connector.advance]
    rfl
  have fourth : responder.step (clock 3) tick (.connecting ⟨0, .checking⟩) c'' =
      ⟨.go responder.listen, c'',
        [.notice (responder.connector.ready 0)] ++ responder.announce⟩ := by
    simp only [step, connect, Connector.step, up, if_true]
  refine ⟨_, ((goes_of_step first).trans (goes_of_step second)).trans
    ((goes_of_step third).trans (goes_of_step fourth)), ?_⟩
  simp only [outward_append, outward_ofAnswer, outward_notice, outward_announce, outward_nil]
  rfl

end Heartbeat
