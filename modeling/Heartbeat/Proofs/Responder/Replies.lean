import Heartbeat.Proofs.Message.RoundTrip
import Heartbeat.Responder.Machine

/-!
The bodies of replies are read back as they were sent, whatever they say; and a responder that
comes to reply has its reply to send.
-/

namespace Heartbeat

/-- What a reply of either kind says. -/
inductive ReplyBody where
  | health (body : WorkerHealth)
  | termination (body : WorkerTermination)
deriving DecidableEq

namespace ReplyBody

def topic : ReplyBody → Topic
  | health _ => .healthCheckReply
  | termination _ => .terminateWorkerReply

def envelope (date : Calendar.Instant) : ReplyBody → Envelope
  | health body => .healthCheckReply date body
  | termination body => .terminateWorkerReply date body

/-- The envelope is opened as a body of this kind, and it says this. -/
def IsIn (envelope : Envelope) : ReplyBody → Prop
  | health body => envelope.payloadAs WorkerHealth.ofValue = .ok body
  | termination body => envelope.payloadAs WorkerTermination.ofValue = .ok body

variable {body other : ReplyBody} {date later : Calendar.Instant}

theorem topic_envelope (body : ReplyBody) (date : Calendar.Instant) :
    (body.envelope date).topic = body.topic := by
  cases body <;> rfl

theorem isIn_envelope (body : ReplyBody) (date : Calendar.Instant) :
    body.IsIn (body.envelope date) := by
  cases body with
  | health body => exact congrArg (Except.mapError _) body.ofValue_toValue
  | termination body => exact congrArg (Except.mapError _) body.ofValue_toValue

theorem fits_envelope (body : ReplyBody) (date : Calendar.Instant) :
    (body.envelope date).payload.Fits 126 := by
  cases body with
  | health body => exact body.fits_toValue 125
  | termination body => exact body.fits_toValue 125

theorem decode_encode (valid : date.Valid) (body : ReplyBody) (now : Calendar.Instant) :
    Envelope.decode now (body.envelope date).encode = .ok (body.envelope date) := by
  refine Envelope.decode_encode ?_ (body.fits_envelope date) now
  cases body <;> exact valid

/-- An envelope has one body of a kind only. -/
theorem eq_of_isIn {envelope : Envelope} (isIn : body.IsIn envelope) (isIn' : other.IsIn envelope)
    (same : body.topic = other.topic) : body = other := by
  cases body with
  | health body =>
      cases other with
      | health other => rw [Except.ok.inj (isIn.symm.trans isIn')]
      | termination other => cases same
  | termination body =>
      cases other with
      | health other => cases same
      | termination other => rw [Except.ok.inj (isIn.symm.trans isIn')]

theorem encode_injective (valid : date.Valid) (valid' : later.Valid)
    (same : (body.envelope date).encode = (other.envelope later).encode) : body = other := by
  have decoded := decode_encode valid body date
  rw [same, decode_encode valid' other date] at decoded
  have envelopes := Except.ok.inj decoded
  refine eq_of_isIn (body.isIn_envelope date) ?_ ?_
  · rw [← envelopes]
    exact other.isIn_envelope later
  · rw [← body.topic_envelope date, ← other.topic_envelope later, envelopes]

end ReplyBody

/-- What a responder says when it replies. -/
def Role.body (identity : Identity) : Role → ReplyBody
  | health => .health identity.health
  | termination => .termination identity.termination

theorem Role.reply_eq (role : Role) (identity : Identity) (date : Calendar.Instant) :
    role.reply identity date = (role.body identity).envelope date := by
  cases role <;> rfl

theorem Responder.sends_reply [Channel C] (responder : Responder) (date : Calendar.Instant)
    (tick : Nat) (budget : Budget) (channel : C) :
    ∃ more, (responder.step date tick (.replying budget) channel).events =
      .call (.send ((responder.role.body responder.identity).envelope date).encode) :: more := by
  rw [step, reply, ← Role.reply_eq]
  simp only
  split
  all_goals exact ⟨_, rfl⟩

namespace ReplyBody

/-- Every body is read back from its reply, under its own topic alone; no two bodies have a reply
in common; and whoever is to reply sends the reply with its own body, on any channel. -/
theorem survives_wire {date : Calendar.Instant} (valid : date.Valid) :
    (∀ (body : ReplyBody) (now : Calendar.Instant),
      (∃ envelope, Envelope.decodeExpecting now body.topic (body.envelope date).encode =
          .ok envelope ∧ body.IsIn envelope) ∧
        ∀ topic, topic ≠ body.topic →
          Envelope.decodeExpecting now topic (body.envelope date).encode =
            .error (.unexpectedTopic topic body.topic)) ∧
      (∀ body other : ReplyBody, body ≠ other →
        (body.envelope date).encode ≠ (other.envelope date).encode) ∧
      ∀ (C : Type) [Channel C] (responder : Responder) (tick : Nat) (budget : Budget) (channel : C),
        ∃ more, (responder.step date tick (.replying budget) channel).events =
          .call (.send ((responder.role.body responder.identity).envelope date).encode) ::
            more := by
  refine ⟨fun body now => ?_, fun body other differ same => differ ?_,
    fun C _ responder tick budget channel => responder.sends_reply date tick budget channel⟩
  · have decoded := decode_encode valid body now
    refine ⟨⟨body.envelope date, ?_, body.isIn_envelope date⟩, fun topic differs => ?_⟩
    · rw [Envelope.decodeExpecting, decoded]
      exact if_pos (body.topic_envelope date)
    · rw [Envelope.decodeExpecting, decoded, ← body.topic_envelope date]
      exact if_neg fun same => differs (same.symm.trans (body.topic_envelope date))
  · exact encode_injective valid valid same

/-- A name with a quote, a backslash, a control character and a letter of two bytes, and a name of
nothing. -/
theorem survives_wire_of_names :
    let date : Calendar.Instant := ⟨0, 0, 0⟩
    let body : ReplyBody := .termination ⟨"\"\\\u0001é", 4294967295, false⟩
    let bytes := (body.envelope date).encode
    (∃ envelope, Envelope.decodeExpecting date .terminateWorkerReply bytes = .ok envelope ∧
      body.IsIn envelope) ∧
      Envelope.decodeExpecting date .healthCheckReply bytes =
        .error (.unexpectedTopic .healthCheckReply .terminateWorkerReply) ∧
      bytes ≠ ((termination ⟨"", 4294967295, false⟩).envelope date).encode := by
  intro date body bytes
  have valid : date.Valid := by constructor <;> decide
  obtain ⟨read, apart, -⟩ := survives_wire valid
  obtain ⟨own, others⟩ := read body date
  exact ⟨own, others .healthCheckReply (by decide), apart _ _ (by decide)⟩

end ReplyBody

end Heartbeat
