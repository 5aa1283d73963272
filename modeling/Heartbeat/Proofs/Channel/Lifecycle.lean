import Heartbeat.Channel.Exchange
import Heartbeat.Proofs.Stream.Interruption

/-!
The life of a socket: any calls in any order, with any outcome. Its marks, its address and its limit
are at all times what its past calls say, and a call that fails takes nothing away, unless it is a
receive after which nobody knows where the next frame begins.
-/

namespace Heartbeat

namespace Socket

/-- A call, and what the surroundings say to it: which paths are directories, and what comes of
connecting. What reading, writing and shutting down bring is in the session. -/
inductive Call where
  | prepare (isDirectory : String → Bool) (endpoint : Endpoint)
  | dial (connected : Except IoError Session) (endpoint : Endpoint)
  | send (payload : Bytes)
  | receive
  | close

inductive Ending where
  | reaction (reaction : Reaction)
  | reception (reception : Reception)
deriving DecidableEq

namespace Ending

def done : Ending := .reaction .done

def failed (fault : ChannelFault) : Ending := .reaction (.failed fault)

/-- Where the next frame begins is not known any more. -/
def losesFrames : Ending → Bool
  | .reaction _ => false
  | .reception result => result.endsSession

end Ending

def act (socket : Socket) : Call → Ending × Socket
  | .prepare isDirectory endpoint =>
      let answer := socket.prepare isDirectory endpoint
      (.reaction answer.result, answer.state)
  | .dial connected endpoint =>
      let answer := socket.dial connected endpoint
      (.reaction answer.result, answer.state)
  | .send payload =>
      let answer := socket.send payload
      (.reaction answer.result, answer.state)
  | .receive =>
      let answer := socket.receive
      (.reception answer.result, answer.state)
  | .close =>
      let answer := socket.close
      (.reaction answer.result, answer.state)

/-! What a call can do -/

theorem keepSession_eq (session : Session) (result : Reception) :
    (keepSession session result).1 = if result.endsSession then none else some session := by
  cases result with
  | failed fault => cases fault <;> rfl
  | _ => rfl

section

variable (socket : Socket)

theorem act_prepare (isDirectory : String → Bool) (endpoint : Endpoint) :
    (∃ why, socket.act (.prepare isDirectory endpoint) =
        (.failed (.invalidAddress why), socket)) ∨
      socket.act (.prepare isDirectory endpoint) =
        (.done,
          { socket with address := some endpoint.address, maxFrame := endpoint.maxFrame }) := by
  simp only [act, Socket.prepare]
  split
  · exact .inl ⟨_, rfl⟩
  · split
    · exact .inl ⟨_, rfl⟩
    · exact .inr rfl

theorem act_dial (connected : Except IoError Session) (endpoint : Endpoint) :
    (socket.isPrepared = false ∧
        socket.act (.dial connected endpoint) = (.failed .notPrepared, socket)) ∨
      (socket.isPrepared = true ∧
        ((∃ error, socket.act (.dial connected endpoint) = (.failed (.io error), socket)) ∨
          ∃ session,
            socket.act (.dial connected endpoint) =
              (.done, { socket with session := some session }))) := by
  simp only [act, Socket.dial]
  cases socket.isPrepared with
  | false => exact .inl ⟨rfl, rfl⟩
  | true =>
      cases connected with
      | error error => exact .inr ⟨rfl, .inl ⟨error, rfl⟩⟩
      | ok session => exact .inr ⟨rfl, .inr ⟨session, rfl⟩⟩

/-- Only the outgoing half of a session is written to, whatever comes of it. -/
theorem act_send (payload : Bytes) :
    (socket.isDialed = false ∧ socket.act (.send payload) = (.failed .notConnected, socket)) ∨
      ∃ session outgoing ending, socket.session = some session ∧
        socket.act (.send payload) =
          (.reaction ending,
            { socket with session := some { session with outgoing := outgoing } }) := by
  obtain ⟨address, maxFrame, session⟩ := socket
  cases session with
  | none => exact .inl ⟨rfl, rfl⟩
  | some session =>
      cases written : Frame.write payload maxFrame session.outgoing with
      | mk result outgoing =>
          cases result with
          | ok sent => exact .inr ⟨session, outgoing, .done, rfl, by simp only [act, send, written]⟩
          | error fault =>
              exact .inr ⟨session, outgoing, .failed fault, rfl, by simp only [act, send, written]⟩

theorem act_receive :
    (socket.isDialed = false ∧
        socket.act .receive = (.reception (.failed .notConnected), socket)) ∨
      (socket.isDialed = true ∧ ∃ ending left,
        socket.act .receive = (.reception ending, { socket with session := left }) ∧
          left.isSome = !ending.endsSession) := by
  obtain ⟨address, maxFrame, session⟩ := socket
  cases session with
  | none => exact .inl ⟨rfl, rfl⟩
  | some session =>
      refine .inr ⟨rfl, _, _, rfl, ?_⟩
      show (keepSession _ (session.read maxFrame).result).1.isSome = _
      rw [keepSession_eq]
      show _ = !(session.read maxFrame).result.endsSession
      cases (session.read maxFrame).result.endsSession <;> rfl

theorem act_close :
    ∃ ending, socket.act .close =
      (.reaction ending, { socket with address := none, session := none }) := by
  obtain ⟨address, maxFrame, session⟩ := socket
  cases session with
  | none => exact ⟨_, rfl⟩
  | some session => exact ⟨_, rfl⟩

end

/-! The law of a single call -/

def Call.opensOrSends : Call → Bool
  | .receive => false
  | .close => false
  | _ => true

/-- The same marks, address and limit. -/
structure Keeps (before after : Socket) : Prop where
  address : after.address = before.address
  maxFrame : after.maxFrame = before.maxFrame
  isDialed : after.isDialed = before.isDialed

theorem Keeps.refl (socket : Socket) : socket.Keeps socket := ⟨rfl, rfl, rfl⟩

section

variable {before after : Socket}

/-- Nothing is prepared anew where the address and the limit stay. -/
theorem not_newly_prepared (address : after.address = before.address)
    (maxFrame : after.maxFrame = before.maxFrame) :
    ¬ (before.isPrepared = false ∧ after.isPrepared = true ∨ after.maxFrame ≠ before.maxFrame) := by
  rintro (⟨unprepared, prepared⟩ | limit)
  · rw [isPrepared, address] at prepared
    rw [isPrepared, prepared] at unprepared
    exact absurd unprepared Bool.noConfusion
  · exact limit maxFrame

theorem not_newly_dialed (same : after.isDialed = before.isDialed)
    (undialed : before.isDialed = false) : ¬ after.isDialed = true := by
  rw [same, undialed]
  exact Bool.false_ne_true

end

/-- What only calls of one kind promise. -/
def Call.Promises (before : Socket) (ending : Ending) (after : Socket) : Call → Prop
  | .prepare _ endpoint => ending = .done → after.maxFrame = endpoint.maxFrame
  -- a session outlives an attempt to get another one
  | .dial _ _ => (ending ≠ .done → after = before) ∧
      (before.isPrepared = false → ending = .failed .notPrepared ∧ after = before)
  | .send _ => before.isDialed = false → ending = .failed .notConnected ∧ after = before
  | .receive => after.address = before.address ∧ after.maxFrame = before.maxFrame ∧
      after.isDialed = (before.isDialed && !ending.losesFrames) ∧
      (before.isDialed = false → ending = .reception (.failed .notConnected) ∧ after = before)
  -- whatever shutting down brought, the socket is prepared again as a new one would be
  | .close => after.isPrepared = false ∧ after.isDialed = false ∧
      ∀ isDirectory endpoint, (after.prepare isDirectory endpoint).result =
        (({} : Socket).prepare isDirectory endpoint).result

/-- What holds of any call that ended like this. -/
structure Obeys (before : Socket) (call : Call) (ending : Ending) (after : Socket) : Prop where
  failed : call.opensOrSends = true → ending ≠ .done → before.Keeps after
  prepared : before.isPrepared = false ∧ after.isPrepared = true ∨
      after.maxFrame ≠ before.maxFrame →
    ∃ isDirectory endpoint, call = .prepare isDirectory endpoint ∧ ending = .done
  dialed : before.isDialed = false → after.isDialed = true →
    ∃ connected endpoint, call = .dial connected endpoint ∧ ending = .done
  promises : call.Promises before ending after

/-- A call that changes neither marks nor address nor limit has only its promises to keep. -/
theorem Keeps.obeys {before after : Socket} {call : Call} {ending : Ending}
    (keeps : before.Keeps after) (promises : call.Promises before ending after) :
    Obeys before call ending after where
  failed _ _ := keeps
  prepared changes := absurd changes (not_newly_prepared keeps.address keeps.maxFrame)
  dialed undialed dialed := absurd dialed (not_newly_dialed keeps.isDialed undialed)
  promises := promises

section

variable (socket : Socket)

theorem obeys_prepare (isDirectory : String → Bool) (endpoint : Endpoint) :
    Obeys socket (.prepare isDirectory endpoint) (socket.act (.prepare isDirectory endpoint)).1
      (socket.act (.prepare isDirectory endpoint)).2 := by
  obtain ⟨why, same⟩ | same := socket.act_prepare isDirectory endpoint
  · rw [same]
    exact (Keeps.refl socket).obeys fun done => by cases done
  · rw [same]
    exact {
      failed := fun _ fails => absurd rfl fails
      prepared := fun _ => ⟨isDirectory, endpoint, rfl, rfl⟩
      dialed := fun undialed dialed => absurd dialed (not_newly_dialed rfl undialed)
      promises := fun _ => rfl }

theorem obeys_dial (connected : Except IoError Session) (endpoint : Endpoint) :
    Obeys socket (.dial connected endpoint) (socket.act (.dial connected endpoint)).1
      (socket.act (.dial connected endpoint)).2 := by
  obtain ⟨-, same⟩ | ⟨prepared, ⟨error, same⟩ | ⟨session, same⟩⟩ :=
    socket.act_dial connected endpoint
  · rw [same]
    exact (Keeps.refl socket).obeys ⟨fun _ => rfl, fun _ => ⟨rfl, rfl⟩⟩
  · rw [same]
    exact (Keeps.refl socket).obeys
      ⟨fun _ => rfl, fun missing => absurd (missing.symm.trans prepared) Bool.false_ne_true⟩
  · rw [same]
    exact {
      failed := fun _ fails => absurd rfl fails
      prepared := fun changes => absurd changes (not_newly_prepared rfl rfl)
      dialed := fun _ _ => ⟨connected, endpoint, rfl, rfl⟩
      promises := ⟨fun fails => absurd rfl fails,
        fun missing => absurd (missing.symm.trans prepared) Bool.false_ne_true⟩ }

theorem obeys_send (payload : Bytes) :
    Obeys socket (.send payload) (socket.act (.send payload)).1
      (socket.act (.send payload)).2 := by
  obtain ⟨-, same⟩ | ⟨session, outgoing, ending, up, same⟩ := socket.act_send payload
  · rw [same]
    exact (Keeps.refl socket).obeys fun _ => ⟨rfl, rfl⟩
  · have dialed : socket.isDialed = true := congrArg Option.isSome up
    rw [same]
    exact Keeps.obeys ⟨rfl, rfl, dialed.symm⟩
      fun undialed => absurd (undialed.symm.trans dialed) Bool.false_ne_true

theorem obeys_receive :
    Obeys socket .receive (socket.act .receive).1 (socket.act .receive).2 := by
  obtain ⟨undialed, same⟩ | ⟨dialed, ending, left, same, lost⟩ := socket.act_receive
  · rw [same]
    exact (Keeps.refl socket).obeys ⟨rfl, rfl, by rw [undialed]; rfl, fun _ => ⟨rfl, rfl⟩⟩
  · rw [same]
    exact {
      failed := fun opens => absurd opens Bool.false_ne_true
      prepared := fun changes => absurd changes (not_newly_prepared rfl rfl)
      dialed := fun undialed => absurd (undialed.symm.trans dialed) Bool.false_ne_true
      promises := ⟨rfl, rfl, by rw [dialed]; exact lost,
        fun undialed => absurd (undialed.symm.trans dialed) Bool.false_ne_true⟩ }

theorem obeys_close : Obeys socket .close (socket.act .close).1 (socket.act .close).2 := by
  obtain ⟨ending, same⟩ := socket.act_close
  rw [same]
  exact {
    failed := fun opens => absurd opens Bool.false_ne_true
    prepared := by
      rintro (⟨-, prepared⟩ | limit)
      · exact absurd prepared Bool.false_ne_true
      · exact absurd rfl limit
    dialed := fun _ dialed => absurd dialed Bool.false_ne_true
    promises := ⟨rfl, rfl, fun isDirectory endpoint => by
      unfold Socket.prepare
      split
      · rfl
      · split <;> rfl⟩ }

theorem obeys_act (call : Call) : Obeys socket call (socket.act call).1 (socket.act call).2 := by
  cases call with
  | prepare isDirectory endpoint => exact obeys_prepare socket isDirectory endpoint
  | dial connected endpoint => exact obeys_dial socket connected endpoint
  | send payload => exact obeys_send socket payload
  | receive => exact obeys_receive socket
  | close => exact obeys_close socket

end

end Socket

/-! With a peer -/

namespace Exchange

/-- Without an address nothing is opened, and without a session no byte moves, on either side. -/
structure StandsBy (exchange : Exchange) : Prop where
  dial : exchange.socket.isPrepared = false → ∀ endpoint,
    exchange.step (.dial endpoint) = (⟨.failed .notPrepared, []⟩, exchange)
  send : exchange.socket.isDialed = false → ∀ bytes,
    exchange.step (.send bytes) = (⟨.failed .notConnected, []⟩, exchange)
  receive : exchange.socket.isDialed = false →
    exchange.step .receive = (⟨.failed .notConnected, []⟩, { exchange with current := none })

theorem standsBy (exchange : Exchange) : exchange.StandsBy := by
  obtain ⟨files, ⟨address, maxFrame, session⟩, current, received, backlog, peer⟩ := exchange
  refine ⟨fun unprepared endpoint => ?_, fun undialed bytes => ?_, fun undialed => ?_⟩
  · cases address with
    | none => rfl
    | some address => exact absurd unprepared.symm Bool.false_ne_true
  · cases session with
    | none => rfl
    | some session => exact absurd undialed.symm Bool.false_ne_true
  · cases session with
    | none => rfl
    | some session => exact absurd undialed.symm Bool.false_ne_true

end Exchange

namespace Socket

/-! Rows of calls -/

/-- A call that was made, and how it ended. -/
structure Deed where
  call : Call
  ending : Ending

namespace Deed

/-- What the socket was prepared for, if it was. -/
def endpoint? : Deed → Option Endpoint
  | ⟨.prepare _ endpoint, .reaction .done⟩ => some endpoint
  | _ => none

def dials : Deed → Bool
  | ⟨.dial _ _, .reaction .done⟩ => true
  | _ => false

def closes : Deed → Bool
  | ⟨.close, _⟩ => true
  | _ => false

/-- Only a close or a lost frame ends a session. -/
def endsSession (deed : Deed) : Bool :=
  deed.closes || deed.ending.losesFrames

end Deed

/-! What the past says, the latest deed first -/

/-- What the socket was prepared for last, if that was after it was closed last. -/
def preparedFor (past : List Deed) : Option Endpoint :=
  (past.takeWhile (!·.closes)).findSome? Deed.endpoint?

def isDialedSince (past : List Deed) : Bool :=
  (past.takeWhile (!·.endsSession)).any Deed.dials

/-- The limit stays when the socket is closed. -/
def limitOf (past : List Deed) : Nat :=
  ((past.findSome? Deed.endpoint?).map Endpoint.maxFrame).getD 0

section

variable (deed : Deed) (past : List Deed)

theorem preparedFor_cons :
    preparedFor (deed :: past) =
      if deed.closes then none else deed.endpoint?.or (preparedFor past) := by
  rw [preparedFor, List.takeWhile_cons]
  cases deed.closes with
  | true => rfl
  | false =>
      show (deed :: _).findSome? Deed.endpoint? = _
      rw [List.findSome?_cons]
      cases deed.endpoint? <;> rfl

theorem isDialedSince_cons :
    isDialedSince (deed :: past) = (!deed.endsSession && (deed.dials || isDialedSince past)) := by
  rw [isDialedSince, List.takeWhile_cons]
  cases deed.endsSession <;> rfl

theorem limitOf_cons :
    limitOf (deed :: past) = (deed.endpoint?.map Endpoint.maxFrame).getD (limitOf past) := by
  rw [limitOf, List.findSome?_cons]
  cases deed.endpoint? <;> rfl

end

/-- A socket with all calls on it so far, the latest first. -/
structure Life where
  socket : Socket := {}
  past : List Deed := []

/-- Between two calls a session may fare in any way: bytes come in and are taken out at the other
side, and the other side may go. But only calls get a session or give it up. -/
inductive Step where
  | call (call : Call)
  | fare (change : Session → Session)

namespace Life

def step (life : Life) : Step → Life
  | .call call =>
      { socket := (life.socket.act call).2
        past := ⟨call, (life.socket.act call).1⟩ :: life.past }
  | .fare change =>
      { life with socket := { life.socket with session := life.socket.session.map change } }

def run (steps : List Step) : Life :=
  steps.foldl step {}

/-- The socket is what its past says, and it is prepared whenever it is dialed. -/
structure Remembers (life : Life) : Prop where
  address : life.socket.address = (preparedFor life.past).map Endpoint.address
  maxFrame : life.socket.maxFrame = limitOf life.past
  isDialed : life.socket.isDialed = isDialedSince life.past
  isPrepared : life.socket.isDialed = true → life.socket.isPrepared = true

theorem remembers_new : Remembers {} := ⟨rfl, rfl, rfl, nofun⟩

section

variable {life : Life}

/-- Nothing to remember of a call that only tells, or that failed. -/
theorem Remembers.pass {deed : Deed} {socket : Socket} (remembers : life.Remembers)
    (keeps : life.socket.Keeps socket) (unprepared : deed.endpoint? = none)
    (undialed : deed.dials = false) (lasts : deed.endsSession = false) :
    Remembers ⟨socket, deed :: life.past⟩ where
  address := by
    have opens : deed.closes = false := (Bool.or_eq_false_iff.mp lasts).1
    rw [preparedFor_cons, opens, unprepared]
    exact keeps.address.trans remembers.address
  maxFrame := by
    rw [limitOf_cons, unprepared]
    exact keeps.maxFrame.trans remembers.maxFrame
  isDialed := by
    rw [isDialedSince_cons, lasts, undialed]
    exact keeps.isDialed.trans remembers.isDialed
  isPrepared dialed := by
    show socket.address.isSome = true
    rw [keeps.address]
    exact remembers.isPrepared (keeps.isDialed.symm.trans dialed)

theorem Remembers.receive (remembers : life.Remembers) :
    Remembers (life.step (.call .receive)) := by
  obtain ⟨-, same⟩ | ⟨dialed, ending, left, same, lost⟩ := life.socket.act_receive
  · rw [step, same]
    exact remembers.pass (.refl _) rfl rfl rfl
  · rw [step, same]
    exact {
      address := (preparedFor_cons ..).symm ▸ remembers.address
      maxFrame := (limitOf_cons ..).symm ▸ remembers.maxFrame
      isDialed := by
        rw [isDialedSince_cons, ← remembers.isDialed, dialed]
        exact lost.trans (Bool.and_true _).symm
      isPrepared := fun _ => remembers.isPrepared dialed }

theorem Remembers.call (remembers : life.Remembers) (call : Call) :
    Remembers (life.step (.call call)) := by
  cases call with
  | prepare isDirectory endpoint =>
      obtain ⟨why, same⟩ | same := life.socket.act_prepare isDirectory endpoint
      · rw [step, same]
        exact remembers.pass (.refl _) rfl rfl rfl
      · rw [step, same]
        exact {
          address := (preparedFor_cons ..).symm ▸ rfl
          maxFrame := (limitOf_cons ..).symm ▸ rfl
          isDialed := (isDialedSince_cons ..).symm ▸ remembers.isDialed
          isPrepared := fun _ => rfl }
  | dial connected endpoint =>
      obtain ⟨-, same⟩ | ⟨prepared, ⟨error, same⟩ | ⟨session, same⟩⟩ :=
        life.socket.act_dial connected endpoint
      · rw [step, same]
        exact remembers.pass (.refl _) rfl rfl rfl
      · rw [step, same]
        exact remembers.pass (.refl _) rfl rfl rfl
      · rw [step, same]
        exact {
          address := (preparedFor_cons ..).symm ▸ remembers.address
          maxFrame := (limitOf_cons ..).symm ▸ remembers.maxFrame
          isDialed := (isDialedSince_cons ..).symm ▸ rfl
          isPrepared := fun _ => prepared }
  | send payload =>
      obtain ⟨-, same⟩ | ⟨session, outgoing, ending, up, same⟩ := life.socket.act_send payload
      · rw [step, same]
        exact remembers.pass (.refl _) rfl rfl rfl
      · rw [step, same]
        refine remembers.pass ⟨rfl, rfl, ?_⟩ rfl rfl rfl
        show true = life.socket.session.isSome
        rw [up]
        rfl
  | receive => exact remembers.receive
  | close =>
      obtain ⟨ending, same⟩ := life.socket.act_close
      rw [step, same]
      exact {
        address := (preparedFor_cons ..).symm ▸ rfl
        maxFrame := (limitOf_cons ..).symm ▸ remembers.maxFrame
        isDialed := (isDialedSince_cons ..).symm ▸ rfl
        isPrepared := nofun }

theorem Remembers.fare (remembers : life.Remembers) (change : Session → Session) :
    Remembers (life.step (.fare change)) where
  address := remembers.address
  maxFrame := remembers.maxFrame
  isDialed := (Option.isSome_map ..).trans remembers.isDialed
  isPrepared dialed := remembers.isPrepared ((Option.isSome_map ..).symm.trans dialed)

theorem Remembers.step (remembers : life.Remembers) : ∀ step, (life.step step).Remembers
  | .call call => remembers.call call
  | .fare change => remembers.fare change

theorem Remembers.run (remembers : life.Remembers) (steps : List Step) :
    (steps.foldl Life.step life).Remembers := by
  induction steps generalizing life with
  | nil => exact remembers
  | cons step steps ih => exact ih (remembers.step step)

end

/-- After any calls, the marks, the address and the limit are what the calls so far say, and the
next call, whatever it is, obeys the law of calls. -/
theorem law_of_run (steps : List Step) :
    (run steps).Remembers ∧
      (∀ call, Obeys (run steps).socket call ((run steps).socket.act call).1
        ((run steps).socket.act call).2) ∧
      ∀ exchange : Exchange, Exchange.StandsBy { exchange with socket := (run steps).socket } :=
  ⟨remembers_new.run steps, (run steps).socket.obeys_act, fun _ => Exchange.standsBy _⟩

end Life

end Socket

end Heartbeat
