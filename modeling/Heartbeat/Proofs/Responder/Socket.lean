import Heartbeat.Channel.Client
import Heartbeat.Proofs.Channel.Lifecycle
import Heartbeat.Proofs.Channel.Stream
import Heartbeat.Proofs.Responder.Refinement
import Heartbeat.Responder.Settings

/-!
Responders on a socket whose peer has sent all it will send. They do what they would do in the
scenario of that stream, and the peer gets a frame for every reply that is not too large for one.
-/

namespace Heartbeat

/-! What is heard -/

theorem Cue.reaction_ne_crashed {cue : Cue} (calm : cue ≠ .crash) : cue.reaction ≠ .crashed := by
  obtain done | ⟨why, -, failed⟩ := reaction_of_ne_crash calm
  · rw [done]
    exact Reaction.noConfusion
  · rw [failed]
    exact Reaction.noConfusion

namespace Client

/-- The chunks that the client has not read yet make the arrivals of the scenario. -/
structure Hears (client : Client) (scenario : Scenario) : Prop where
  calm : scenario.Calm
  arrivals : ∃ left : Option (List Bytes),
    client.socket.session.map (·.incoming) = left.map .ofChunks ∧
      ∀ n, scenario.arrivals n = .ofStream client.socket.maxFrame (left.map List.flatten) n

theorem send_keeps (bytes : Bytes) (client : Client) :
    (Channel.send bytes client).result ≠ .crashed ∧
      (Channel.send bytes client).state.socket.maxFrame = client.socket.maxFrame ∧
      (Channel.send bytes client).state.socket.session.map (·.incoming) =
        client.socket.session.map (·.incoming) := by
  obtain ⟨files, offers, ⟨address, maxFrame, session⟩, delivered⟩ := client
  cases session with
  | none => exact ⟨Reaction.noConfusion, rfl, rfl⟩
  | some session =>
      simp only [Channel.send, Socket.send]
      cases (Frame.write bytes maxFrame session.outgoing).1 with
      | ok => exact ⟨Reaction.noConfusion, rfl, rfl⟩
      | error fault => exact ⟨Reaction.noConfusion, rfl, rfl⟩

theorem session_receive {client : Client} {session : Session}
    (up : client.socket.session = some session) :
    (Channel.receive client).state.socket.session =
      if (Frame.read client.socket.maxFrame session.incoming).result.endsSession then none
      else
        some { session with
          incoming := (Frame.read client.socket.maxFrame session.incoming).state } := by
  obtain ⟨files, offers, ⟨address, maxFrame, other⟩, delivered⟩ := client
  cases up
  exact Socket.keepSession_eq ..

theorem hears_receive {client : Client} {scenario : Scenario} (hears : client.Hears scenario) :
    (Channel.receive client).result = scenario.receive.result ∧
      (Channel.receive client).state.Hears scenario.receive.state := by
  obtain ⟨calm, left, same, arrivals⟩ := hears
  have first := arrivals 0
  have sound : scenario.arrivals 0 ≠ .silence := by
    rw [first]
    exact (Arrival.ofStream_ne ..).1
  rw [Scenario.receive_of_heard rfl sound, first]
  obtain ⟨files, offers, ⟨address, maxFrame, session⟩, delivered⟩ := client
  cases left with
  | none =>
      obtain rfl : session = none := Option.map_eq_none_iff.mp same
      have faults : ∀ n, scenario.arrivals n = .fault .notConnected := fun n =>
        (arrivals n).trans (Arrival.ofStream_none ..)
      exact ⟨rfl, calm.hear, none, rfl, fun n =>
        (faults (n + 1)).trans (Arrival.ofStream_none ..).symm⟩
  | some chunks =>
      obtain ⟨session, rfl, incoming⟩ := Option.map_eq_some_iff.mp same
      obtain ⟨result, ends, state⟩ := Frame.hears_read maxFrame chunks
      rw [← incoming] at result ends state
      have kept := session_receive
        (show (Client.mk files offers ⟨address, maxFrame, some session⟩ delivered).socket.session =
          some session from rfl)
      refine ⟨result, calm.hear, ?_⟩
      cases rest : (Arrival.next maxFrame chunks.flatten).2 with
      | none =>
          rw [ends, rest, Option.isNone_none, if_pos rfl] at kept
          refine ⟨none, by rw [kept]; rfl, fun n => ?_⟩
          have later := arrivals (n + 1)
          rw [Option.map_some, Arrival.ofStream, rest] at later
          exact later
      | some left =>
          obtain ⟨chunks', rfl, after⟩ := state left rest
          rw [ends, rest, Option.isNone_some, if_neg Bool.false_ne_true, after] at kept
          refine ⟨some chunks', by rw [kept]; rfl, fun n => ?_⟩
          have later := arrivals (n + 1)
          rw [Option.map_some, Arrival.ofStream, rest] at later
          exact later

theorem close_stands (client : Client) : (Channel.close client).result ≠ .crashed := by
  obtain ⟨files, offers, ⟨address, maxFrame, session⟩, delivered⟩ := client
  cases session with
  | none => exact Reaction.noConfusion
  | some session =>
      simp only [Channel.close, Socket.close]
      cases session.shutdownError with
      | none => exact Reaction.noConfusion
      | some error => exact Reaction.noConfusion

theorem follows_hears : Channel.Follows Hears where
  send bytes bytes' client scenario hears := by
    obtain ⟨stands, maxFrame, incoming⟩ := send_keeps bytes client
    obtain ⟨calm, left, same, arrivals⟩ := hears
    refine ⟨stands, Cue.reaction_ne_crashed (calm.sending 0), calm.of_send, left,
      incoming.trans same, ?_⟩
    rw [maxFrame]
    exact arrivals
  receive client scenario hears := hears_receive hears
  close client scenario hears :=
    ⟨close_stands client, Cue.reaction_ne_crashed (hears.calm.closing 0)⟩

end Client

/-! Connecting -/

theorem Files.of_dialFault?_eq_none {files : Files} {path : String}
    (reachable : files.dialFault? path = none) :
    path ≠ "" ∧ files.isDirectory path = false := by
  unfold dialFault? at reachable
  split_ifs at reachable with abstract inside long empty
  refine ⟨empty, ?_⟩
  rw [isDirectory]
  -- Of all that may be found only a socket with a listener does not refuse.
  split at reachable
  case h_3 found =>
    rw [found]
    rfl
  all_goals cases reachable

/-- A peer at the endpoint that has sent these chunks and no more, and takes all it is sent. -/
structure Client.Serves (client : Client) (endpoint : Endpoint) (chunks : List Bytes) : Prop where
  fresh : client.socket = {}
  reachable : client.files.dialFault? endpoint.address = none
  incoming : (client.offered endpoint.address).incoming = .ofChunks chunks
  willing : (client.offered endpoint.address).outgoing.Willing
  flushes : (client.offered endpoint.address).outgoing.flushError = none
  unwritten : (client.offered endpoint.address).outgoing.writes = []

namespace Client

variable {client : Client} {endpoint : Endpoint} {chunks : List Bytes}

def joined (client : Client) (endpoint : Endpoint) : Client :=
  client.withSocket
    ⟨some endpoint.address, endpoint.maxFrame, some (client.offered endpoint.address)⟩

theorem Serves.prepare (serves : client.Serves endpoint chunks) :
    ∃ notices, Channel.prepare endpoint client =
      ⟨.done, client.withSocket ⟨some endpoint.address, endpoint.maxFrame, none⟩, notices⟩ := by
  obtain ⟨named, notDirectory⟩ := Files.of_dialFault?_eq_none serves.reachable
  simp only [Channel.prepare, Socket.prepare, if_neg named, notDirectory, serves.fresh]
  exact ⟨_, rfl⟩

theorem Serves.dial (serves : client.Serves endpoint chunks) :
    ∃ notices, Channel.dial endpoint
        (client.withSocket ⟨some endpoint.address, endpoint.maxFrame, none⟩) =
      ⟨.done, client.joined endpoint, notices⟩ := by
  have connected : (client.withSocket ⟨some endpoint.address, endpoint.maxFrame, none⟩).connect
      endpoint = .ok (client.offered endpoint.address) := by
    unfold connect withSocket
    rw [serves.reachable]
    rfl
  simp only [Channel.dial, Socket.dial, connected]
  exact ⟨_, rfl⟩

theorem Serves.leads_to_listening (responder : Responder)
    (serves : client.Serves responder.connector.endpoint chunks) (clock : Clock) (tick : Nat) :
    ∃ events, Goes (responder.turn clock) Responder.wake? none 4 ⟨tick, {}, client⟩ events
        ⟨tick, ⟨responder.listen, 4⟩, client.joined responder.connector.endpoint⟩ ∧
      outward events =
        .call (.prepare responder.connector.endpoint) ::
          .call (.dial responder.connector.endpoint) :: responder.role.greeting := by
  have down : Channel.isDialed client = false := by
    show client.socket.session.isSome = false
    rw [serves.fresh]
    rfl
  obtain ⟨_, prepared⟩ := serves.prepare
  obtain ⟨_, dialed⟩ := serves.dial
  exact responder.leads_of_first_attempt clock tick down prepared dialed rfl

theorem Serves.hears (serves : client.Serves endpoint chunks) {scenario : Scenario}
    (calm : scenario.Calm)
    (arrivals : ∀ n, scenario.arrivals n = .ofStream endpoint.maxFrame (some chunks.flatten) n) :
    (client.joined endpoint).Hears scenario :=
  ⟨calm, some chunks, congrArg some serves.incoming, arrivals⟩

end Client

/-! What is delivered -/

/-- The bytes of all sends, whatever came of them. -/
def sent (events : List Event) : List Bytes :=
  events.filterMap fun
    | .call (.send bytes) => some bytes
    | _ => none

theorem sent_append (events more : List Event) : sent (events ++ more) = sent events ++ sent more :=
  List.filterMap_append ..

theorem sent_outward (events : List Event) : sent (outward events) = sent events := by
  induction events with
  | nil => rfl
  | cons event events ih =>
      cases event with
      | notice notice => exact ih
      | milestone milestone => exact ih
      | call call =>
          rw [outward_call]
          cases call with
          | send bytes => exact congrArg (bytes :: ·) ih
          | _ => exact ih

/-- The frames of those that are not too large for one. -/
def framed (max : Nat) (payloads : List Bytes) : Bytes :=
  (payloads.filter (·.length ≤ Frame.limit max)).flatMap Frame.encode

theorem framed_append (max : Nat) (payloads more : List Bytes) :
    framed max (payloads ++ more) = framed max payloads ++ framed max more := by
  rw [framed, List.filter_append, List.flatMap_append]
  rfl

theorem framed_singleton (max : Nat) (bytes : Bytes) :
    framed max [bytes] = if bytes.length ≤ Frame.limit max then Frame.encode bytes else [] := by
  by_cases fits : bytes.length ≤ Frame.limit max
  · rw [if_pos fits]
    simp [framed, fits]
  · rw [if_neg fits]
    simp [framed, fits]

namespace Client

/-- A client whose channel is up has delivered what it sent. It needs its session for a reply, and
for nothing else. -/
structure Delivers (max : Nat) (before : Bytes) (events : List Event) (status : Status)
    (client : Client) : Prop where
  up : ∀ phase, status = .running phase → phase.isUp
  maxFrame : client.socket.maxFrame = max
  delivered : client.delivered = before ++ framed max (sent events)
  sink : ∀ session ∈ client.socket.session,
    session.outgoing.Willing ∧ session.outgoing.flushError = none ∧ session.outgoing.writes = []
  session : ∀ budget, status = .running (.replying budget) → client.socket.session.isSome

variable {max : Nat} {before : Bytes} {events : List Event} {status : Status}

theorem receive_keeps (client : Client) :
    (Channel.receive client).state.socket.maxFrame = client.socket.maxFrame ∧
      (Channel.receive client).state.delivered = client.delivered ∧
      (∀ session ∈ (Channel.receive client).state.socket.session,
        ∃ old ∈ client.socket.session, session.outgoing = old.outgoing) ∧
      ∀ bytes, (Channel.receive client).result = .datagram bytes →
        (Channel.receive client).state.socket.session.isSome := by
  obtain ⟨files, offers, ⟨address, maxFrame, session⟩, delivered⟩ := client
  cases session with
  | none => exact ⟨rfl, rfl, nofun, nofun⟩
  | some session =>
      have kept := session_receive
        (show (Client.mk files offers ⟨address, maxFrame, some session⟩ delivered).socket.session =
          some session from rfl)
      refine ⟨rfl, rfl, ?_, fun bytes result => ?_⟩
      · rw [kept]
        split
        · exact nofun
        · rintro _ ⟨⟩
          exact ⟨session, rfl, rfl⟩
      · replace result : (Frame.read maxFrame session.incoming).result = .datagram bytes := result
        rw [kept, result]
        rfl

theorem Delivers.of_quiet {client after : Client} {more : List Event} {status' : Status}
    (delivers : Delivers max before events status client)
    (up : ∀ phase, status' = .running phase → phase.isUp) (quiet : sent more = [])
    (maxFrame : after.socket.maxFrame = client.socket.maxFrame)
    (delivered : after.delivered = client.delivered)
    (sink : ∀ session ∈ after.socket.session,
      ∃ old ∈ client.socket.session, session.outgoing = old.outgoing)
    (session : ∀ budget, status' = .running (.replying budget) → after.socket.session.isSome) :
    Delivers max before (events ++ more) status' after where
  up := up
  maxFrame := maxFrame.trans delivers.maxFrame
  delivered := by rw [delivered, delivers.delivered, sent_append, quiet, List.append_nil]
  sink s inside := by
    obtain ⟨old, there, same⟩ := sink s inside
    rw [same]
    exact delivers.sink old there
  session := session

variable {responder : Responder} {date : Calendar.Instant} {client : Client}

theorem Delivers.receive {budget : Budget}
    (delivers : Delivers max before events (.running (.receiving budget)) client) :
    Delivers max before (events ++ (responder.receive date budget client).events)
      (.ofVerdict (.receiving budget) (responder.receive date budget client).verdict)
      (responder.receive date budget client).channel := by
  have quiet : sent (responder.receive date budget client).events = [] := by
    rw [← sent_outward, Responder.outward_receive]
    rfl
  obtain ⟨maxFrame, delivered, sink, session⟩ := receive_keeps client
  unfold Responder.receive at quiet ⊢
  simp only at quiet ⊢
  cases result : (Channel.receive client).result with
  | datagram bytes =>
      rw [result] at quiet
      obtain ⟨-, up, -⟩ := responder.accept_refines date date budget bytes
      refine delivers.of_quiet ?_ quiet maxFrame delivered sink fun _ _ => session bytes result
      rintro _ ⟨⟩
      exact up
  | failed fault =>
      rw [result] at quiet
      refine delivers.of_quiet ?_ quiet maxFrame delivered sink ?_
      · rintro _ ⟨⟩
        exact (responder.failReceive_up budget fault).1
      · rintro budget' replying
        obtain ⟨-, elsewhere, -⟩ := responder.failReceive_up budget fault
        exact absurd (Status.running.inj replying) (elsewhere budget')
  | waiting =>
      rw [result] at quiet
      refine delivers.of_quiet ?_ quiet maxFrame delivered sink nofun
      rintro _ ⟨⟩
      rfl
  | crashed =>
      rw [result] at quiet
      exact delivers.of_quiet nofun quiet maxFrame delivered sink nofun

/-- A frame gets through whole or not at all. -/
theorem send_of_willing {session : Session} (up : client.socket.session = some session)
    (willing : session.outgoing.Willing) (flushes : session.outgoing.flushError = none)
    (unwritten : session.outgoing.writes = []) (bytes : Bytes) :
    (Channel.send bytes client).state.delivered =
        client.delivered ++ framed client.socket.maxFrame [bytes] ∧
      ∃ after, (Channel.send bytes client).state.socket.session = some after ∧
        after.outgoing.Willing ∧ after.outgoing.flushError = none ∧ after.outgoing.writes = [] := by
  obtain ⟨files, offers, ⟨address, maxFrame, other⟩, delivered⟩ := client
  cases up
  have nothing : session.outgoing.accepted = [] := by rw [Sink.accepted, unwritten]; rfl
  by_cases fits : bytes.length ≤ Frame.limit maxFrame
  · obtain ⟨after, written, took⟩ := Frame.write_of_willing fits willing
    have all : framed maxFrame [bytes] = after.accepted := by
      rw [took.accepted, nothing, List.nil_append, framed_singleton, if_pos fits]
    simp only [Channel.send, Socket.send, written, Frame.flushed, flushes]
    refine ⟨?_, _, rfl,
      ⟨took.willing.endless, took.willing.portions_pos, took.willing.perWrite_pos⟩,
      took.flushError.trans flushes, rfl⟩
    rw [all]
    rfl
  · have refused : Frame.write bytes maxFrame session.outgoing =
        (.error (.tooLarge bytes.length (Frame.limit maxFrame)), session.outgoing) :=
      if_pos (Nat.lt_of_not_le fits)
    have none : framed maxFrame [bytes] = [] := by rw [framed_singleton, if_neg fits]
    simp only [Channel.send, Socket.send, refused]
    refine ⟨?_, _, rfl, ⟨willing.endless, willing.portions_pos, willing.perWrite_pos⟩, flushes, rfl⟩
    rw [none, ← nothing]
    rfl

theorem Delivers.reply {budget : Budget}
    (delivers : Delivers max before events (.running (.replying budget)) client) :
    Delivers max before (events ++ (responder.reply date budget client).events)
      (.ofVerdict (.replying budget) (responder.reply date budget client).verdict)
      (responder.reply date budget client).channel := by
  obtain ⟨session, up⟩ := Option.isSome_iff_exists.mp (delivers.session budget rfl)
  obtain ⟨willing, flushes, unwritten⟩ := delivers.sink session up
  obtain ⟨stands, maxFrame, -⟩ := send_keeps (responder.replyBytes date) client
  obtain ⟨delivered, after, up', sink⟩ :=
    send_of_willing up willing flushes unwritten (responder.replyBytes date)
  obtain ⟨more, replied, seen⟩ := responder.reply_of_not_crashed date budget stands
  obtain ⟨up'', elsewhere⟩ := responder.conclude_up budget
  have one : sent more = [responder.replyBytes date] := by
    rw [← sent_outward, seen]
    cases responder.role <;> rfl
  rw [replied]
  refine ⟨?_, maxFrame.trans delivers.maxFrame, ?_, ?_, ?_⟩
  · rintro _ ⟨⟩
    exact up''
  · rw [sent_append, one, framed_append, ← List.append_assoc, ← delivers.delivered,
      ← delivers.maxFrame]
    exact delivered
  · intro other there
    cases up'.symm.trans there
    exact sink
  · intro budget' replying
    exact absurd (Status.running.inj replying) (elsewhere budget')

theorem close_keeps (client : Client) :
    (Channel.close client).state.socket.maxFrame = client.socket.maxFrame ∧
      (Channel.close client).state.delivered = client.delivered ∧
      (Channel.close client).state.socket.session = none := by
  obtain ⟨files, offers, ⟨address, maxFrame, session⟩, delivered⟩ := client
  cases session with
  | none => exact ⟨rfl, rfl, rfl⟩
  | some session => exact ⟨rfl, rfl, rfl⟩

theorem Delivers.close {exit : Exit}
    (delivers : Delivers max before events (.running (.closing exit)) client) :
    Delivers max before (events ++ (responder.close exit client).events)
      (.ofVerdict (.closing exit) (responder.close exit client).verdict)
      (responder.close exit client).channel := by
  obtain ⟨maxFrame, delivered, down⟩ := close_keeps client
  obtain ⟨more, closed, seen⟩ := responder.close_of_not_crashed exit (close_stands client)
  have quiet : sent more = [] := by
    rw [← sent_outward, seen]
    rfl
  rw [closed]
  refine delivers.of_quiet nofun quiet maxFrame delivered ?_ nofun
  rw [down]
  exact nofun

theorem Delivers.step {tick : Nat} {phase : Phase}
    (delivers : Delivers max before events (.running phase) client) :
    Delivers max before (events ++ (responder.step date tick phase client).events)
      (.ofVerdict phase (responder.step date tick phase client).verdict)
      (responder.step date tick phase client).channel := by
  cases phase with
  | starting => exact absurd (delivers.up _ rfl) Bool.false_ne_true
  | connecting attempt => exact absurd (delivers.up _ rfl) Bool.false_ne_true
  | listening budget =>
      refine delivers.of_quiet ?_ rfl rfl rfl (fun session up => ⟨session, up, rfl⟩) nofun
      rintro _ ⟨⟩
      rfl
  | receiving budget => exact delivers.receive
  | replying budget => exact delivers.reply
  | closing exit => exact delivers.close

theorem Delivers.run (responder : Responder) (clock : Clock) (fuel tick turns : Nat)
    {phase : Phase} (delivers : Delivers max before events (.running phase) client) :
    let run := runTurns (responder.turn clock) Responder.wake? none fuel tick ⟨phase, turns⟩ client
    Delivers max before (events ++ run.events)
      (.ofVerdict run.state.phase (run.verdict.map Post.phase)) run.channel := by
  let holds (events : List Event) (job : Job Client) : Prop :=
    Delivers max before events job.status job.channel
  refine Job.runTurns_keeps holds ?_ none fuel tick ⟨phase, turns⟩ delivers
  rintro events tick ⟨responder, client, status, turns⟩ running delivers
  obtain ⟨phase, rfl⟩ := Status.exists_phase running
  exact delivers.step

theorem Serves.delivers_listening (responder : Responder) {endpoint : Endpoint}
    {chunks : List Bytes} (serves : client.Serves endpoint chunks) (quiet : sent events = []) :
    Delivers endpoint.maxFrame client.delivered events (.running responder.listen)
      (client.joined endpoint) where
  up := by
    rintro _ ⟨⟩
    rfl
  maxFrame := rfl
  delivered := by
    rw [quiet]
    exact (List.append_nil _).symm
  sink := by
    rintro _ ⟨⟩
    exact ⟨serves.willing, serves.flushes, serves.unwritten⟩
  session := nofun

end Client

/-! Whole runs -/

/-- A run on a socket beside one in the scenario of its stream. The socket takes four turns to come
up, the scenario one; from there they go on alike. -/
theorem Client.Serves.runs_alike (responder : Responder) {client : Client} {chunks : List Bytes}
    (serves : client.Serves responder.connector.endpoint chunks) {scenario : Scenario}
    (calm : scenario.Calm) (ready : scenario.prepared = true ∧ scenario.dialed = true)
    (arrivals : ∀ n, scenario.arrivals n =
      .ofStream responder.connector.endpoint.maxFrame (some chunks.flatten) n)
    (clock clock' : Clock) (tick tick' spare : Nat) :
    let endpoint := responder.connector.endpoint
    let progress := (responder.job client).run none (4 + spare) clock tick
    let progress' := (responder.job scenario).run none (1 + spare) clock' tick'
    progress.job.status = progress'.job.status ∧
      List.Forall₂ (responder.Restamps (fun turn => clock (turn + 3)) clock')
        (outward progress.events)
        (.call (.prepare endpoint) :: .call (.dial endpoint) :: outward progress'.events) ∧
      progress.job.channel.delivered =
        client.delivered ++ framed endpoint.maxFrame (sent progress.events) := by
  intro endpoint progress progress'
  obtain ⟨before, row, joining⟩ := serves.leads_to_listening responder clock tick
  have quiet : sent before = [] := by
    rw [← sent_outward, joining]
    cases responder.role <;> rfl
  have delivers := (serves.delivers_listening responder quiet).run responder clock spare tick 4
  have begun : responder.step (clock' 0) tick' .starting scenario =
      ⟨.go responder.listen, scenario, responder.announce⟩ :=
    if_pos (Bool.and_eq_true_iff.mpr ready)
  have up : responder.listen.isUp := rfl
  obtain ⟨same, alike⟩ := responder.run_refines clock clock' Client.follows_hears spare tick tick'
    3 1 up (serves.hears calm arrivals)
  have ran := row.run spare
  obtain ⟨status, events⟩ := responder.run_job clock' ((Responder.goes_of_step begun).run spare)
  rw [status, events]
  simp only [progress, Job.run, Responder.job, ran]
  refine ⟨same, ?_, delivers.delivered⟩
  have unsent : ∀ bytes, .call (.send bytes) ∉ outward before := by
    rw [joining]
    cases responder.role <;> simp [Role.greeting]
  simp only [Run.after, outward_append]
  rw [Responder.outward_announce, ← List.cons_append, ← List.cons_append, ← joining]
  exact List.rel_append (responder.restamps_of_quiet _ _ unsent) alike

namespace Settings

/-- On a socket whose peer has sent a stream and no more, however it was cut, a responder comes to
an end, and to the same end after the same receives and sends and with the same signals as in the
scenario of that stream, three turns later. Only the dates of its replies may be other ones: each
is read off the clock in the turn of the reply. Every reply that is not too large for a frame is
delivered as one, and nothing else is. -/
theorem course_on_socket (settings : Settings) (role : Role) {endpoint : Endpoint} {client : Client}
    {chunks : List Bytes} (serves : client.Serves endpoint chunks) {scenario : Scenario}
    (calm : scenario.Calm) (ready : scenario.prepared = true ∧ scenario.dialed = true)
    (arrivals : ∀ n, scenario.arrivals n = .ofStream endpoint.maxFrame (some chunks.flatten) n)
    (clock clock' : Clock) (tick tick' : Nat) :
    let responder := settings.responder role endpoint
    ∃ exit seen, responder.Ends clock' tick' scenario exit seen ∧
      ∃ turns, ∀ fuel > turns,
        let progress := (responder.job client).run none fuel clock tick
        progress.job.status = .finished exit ∧
          List.Forall₂ (responder.Restamps (fun turn => clock (turn + 3)) clock')
            (outward progress.events)
            (.call (.prepare endpoint) :: .call (.dial endpoint) :: seen) ∧
          progress.job.channel.delivered =
            client.delivered ++ framed endpoint.maxFrame (sent progress.events) := by
  intro responder
  obtain ⟨k, faults⟩ := Arrival.exists_faults endpoint.maxFrame chunks.flatten
  have heard : ∀ n, scenario.arrivals n ≠ .silence := fun n => by
    rw [arrivals]
    exact (Arrival.ofStream_ne ..).1
  obtain ⟨n, exit, ends⟩ := responder.exists_endsWith heard k fun n late => by
    rw [arrivals]
    exact faults n late
  obtain ⟨connecting, turn, -, course, -⟩ := responder.course clock' tick' calm
  obtain ⟨turns, ended⟩ := course n exit ends
  refine ⟨exit, _, ⟨turns, ended⟩, turns + 4, fun fuel enough => ?_⟩
  obtain ⟨spare, rfl⟩ := Nat.exists_eq_add_of_le (show 4 ≤ fuel by omega)
  obtain ⟨status, seen⟩ := ended (1 + spare) (by omega)
  rw [← status, ← seen]
  exact serves.runs_alike responder calm ready arrivals clock clock' tick tick' spare

/-- A request in three pieces, one of them empty, another request and the beginning of a frame that
is too large. Of the two replies the first one fits into a frame; the second one is made when the
clock shows a fraction of a second, and is too large. -/
theorem course_on_socket_up_to_large_frame :
    let request := Frame.encode (Envelope.healthCheckRequest ⟨0, 0, 0⟩).encode
    let chunks := [request.take 3, [], request.drop 3 ++ request ++ [0, 0, 1, 0, 1, 7]]
    let endpoint : Endpoint := ⟨"/socket", 120⟩
    let client : Client :=
      ⟨⟨[], [(["socket"], .socket true)]⟩, [⟨"/socket", ⟨.ofChunks chunks, {}, none⟩⟩], {}, []⟩
    let scenario : Scenario :=
      { Scenario.ofArrivals (.ofStream 120 (some chunks.flatten)) with
        prepared := true
        dialed := true }
    let responder := (Settings.mk 0 2 ⟨"worker", 7⟩ .slept).responder .health endpoint
    let clock : Clock := fun turn => ⟨0, turn, if turn < 9 then 0 else 123456789⟩
    (responder.replyBytes (clock 6)).length = 119 ∧
      (responder.replyBytes (clock 9)).length = 129 ∧
      ∃ exit seen, responder.Ends .minute 0 scenario exit seen ∧
        ∃ turns, ∀ fuel > turns,
          let progress := (responder.job client).run none fuel clock 0
          progress.job.status = .finished exit ∧
            List.Forall₂ (responder.Restamps (fun turn => clock (turn + 3)) .minute)
              (outward progress.events)
              (.call (.prepare endpoint) :: .call (.dial endpoint) :: seen) ∧
            progress.job.channel.delivered = framed 120 (sent progress.events) := by
  intro request chunks endpoint client scenario responder clock
  have serves : client.Serves endpoint chunks :=
    ⟨rfl, by decide +kernel, by decide +kernel,
      ⟨by decide +kernel, by decide +kernel, by decide +kernel⟩, by decide +kernel,
      by decide +kernel⟩
  have calm : scenario.Calm :=
    ⟨nofun, nofun, fun n => (Arrival.ofStream_ne ..).2, fun _ => Cue.noConfusion,
      fun _ => Cue.noConfusion⟩
  refine ⟨by decide +kernel, by decide +kernel, ?_⟩
  exact (Settings.mk 0 2 ⟨"worker", 7⟩ .slept).course_on_socket .health serves calm ⟨rfl, rfl⟩
    (fun _ => rfl) clock .minute 0 0

end Settings

end Heartbeat
