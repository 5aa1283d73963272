import Heartbeat.Proofs.Stream.Sink
import Heartbeat.Proofs.Stream.Source
import Heartbeat.Stream.Frame

/-!
Rows of frames. What is written frame by frame is read back frame by frame, however the bytes are
cut on their way; a datagram that is too large for the reader costs one fault and nothing else.
-/

namespace Heartbeat.Frame

/-- Sends datagrams one after another, whatever becomes of each. -/
def writes (max : Nat) : List Bytes → Sink → List (Except ChannelFault Unit) × Sink
  | [], sink => ([], sink)
  | payload :: payloads, sink =>
      let (result, sink) := write payload max sink
      let (results, sink) := writes max payloads sink
      (result :: results, sink)

/-- What so many calls for the next datagram bring, one after another. -/
def reads (max : Nat) : Nat → Source → List Reception
  | 0, _ => []
  | n + 1, source =>
      let answer := read max source
      answer.result :: reads max n answer.state

/-- What a reader with a bound makes of a frame that holds `payload`. -/
def delivery (max : Nat) (payload : Bytes) : Reception :=
  if payload.length ≤ limit max then .datagram payload
  else .failed (.tooLarge payload.length (limit max))

theorem limit_le_maxSize (max : Nat) : limit max ≤ maxSize :=
  Nat.min_le_right max maxSize

/-- No datagram that may be sent is too long for the four bytes of its length. -/
theorem lt_of_le_limit {n max : Nat} (fits : n ≤ limit max) : n < 4294967296 :=
  Nat.lt_of_le_of_lt (Nat.le_trans fits (limit_le_maxSize max)) (by decide)

@[simp] theorem length_header (payload : Bytes) : (header payload).length = headerSize := rfl

theorem announced_header {payload : Bytes} (fits : payload.length < 4294967296) :
    announced (header payload) = (payload.length, version) := by
  unfold announced header
  rw [List.take_left' (Bytes.length_bigEndian4 _), Bytes.ofBigEndian_bigEndian4 fits]
  rfl

/-! Writing -/

/-- How a write ends whose bytes have all been taken. -/
def flushed (sink : Sink) : Except ChannelFault Unit :=
  match sink.flushError with
  | some error => .error (.io error)
  | none => .ok ()

/-- The parts are taken from the front, and the sink is flushed if nothing of them is left. -/
theorem writeParts_cases (parts : List Bytes) (sink : Sink) :
    ∃ pieces left, parts.flatten = pieces.flatten ++ left ∧
      (left = [] ∧ writeParts parts sink = (sink.takes pieces).flush ∨
        left ≠ [] ∧ (sink.takes pieces).Refuses ∧
          writeParts parts sink = (.error sink.refusal, sink.takes pieces)) := by
  induction parts generalizing sink with
  | nil => exact ⟨[], [], rfl, .inl ⟨rfl, rfl⟩⟩
  | cons part parts ih =>
      obtain ⟨pieces, left, rfl, ⟨rfl, written⟩ | ⟨some, refuses, written⟩⟩ :=
        sink.writeAll_cases part
      · obtain ⟨more, left, same, outcome⟩ := ih (sink.takes pieces)
        refine ⟨pieces ++ more, left, ?_, ?_⟩
        · rw [List.flatten_cons, same, List.append_nil, List.flatten_append, List.append_assoc]
        · rw [writeParts, written, Sink.takes_append]
          rwa [Sink.refusal_takes] at outcome
      · refine ⟨pieces, left ++ parts.flatten, ?_, .inr ⟨?_, refuses, ?_⟩⟩
        · rw [List.flatten_cons, List.append_assoc]
        · exact List.append_ne_nil_of_left_ne_nil some _
        · rw [writeParts, written]

@[simp] theorem flushed_takes (sink : Sink) (pieces : List Bytes) :
    flushed (sink.takes pieces) = flushed sink := by
  rw [flushed, flushed, Sink.flushError_takes]

theorem flush_eq (sink : Sink) :
    (sink.flush.1.mapError .io, sink.flush.2) =
      (flushed sink, { sink with flushes := sink.flushes + 1 }) := by
  unfold flushed Sink.flush
  cases sink.flushError <;> rfl

/-- A payload within the limit is sent in a frame, as far as the sink takes it. -/
theorem write_cases {payload : Bytes} {max : Nat} (fits : payload.length ≤ limit max)
    (sink : Sink) :
    ∃ pieces left, encode payload = pieces.flatten ++ left ∧
      (left = [] ∧
          write payload max sink =
            (flushed sink, { sink.takes pieces with flushes := sink.flushes + 1 }) ∨
        left ≠ [] ∧ (sink.takes pieces).Refuses ∧
          write payload max sink = (.error (.io sink.refusal), sink.takes pieces)) := by
  have unfolded : write payload max sink =
      ((writeParts [header payload, payload] sink).1.mapError .io,
        (writeParts [header payload, payload] sink).2) := by
    rw [write, if_neg (Nat.not_lt.mpr fits), if_neg (Nat.not_le.mpr (lt_of_le_limit fits))]
  have whole : [header payload, payload].flatten = encode payload := by simp [encode]
  obtain ⟨pieces, left, same, ⟨nothing, parts⟩ | ⟨some, refuses, parts⟩⟩ :=
    writeParts_cases [header payload, payload] sink
  · refine ⟨pieces, left, whole.symm.trans same, .inl ⟨nothing, ?_⟩⟩
    rw [unfolded, parts, flush_eq, flushed_takes, Sink.flushes_takes]
  · refine ⟨pieces, left, whole.symm.trans same, .inr ⟨some, refuses, ?_⟩⟩
    rw [unfolded, parts]
    rfl

theorem write_of_willing {payload : Bytes} {max : Nat} (fits : payload.length ≤ limit max)
    {sink : Sink} (willing : sink.Willing) :
    ∃ after, write payload max sink = (flushed sink, after) ∧
      Sink.Took (encode payload) sink after := by
  obtain ⟨pieces, left, whole, ⟨rfl, written⟩ | ⟨-, refuses, -⟩⟩ := write_cases fits sink
  · have willingAfter := willing.takes pieces
    refine ⟨_, written, ⟨willingAfter.endless, willingAfter.portions_pos,
      willingAfter.perWrite_pos⟩, ?_, sink.flushError_takes pieces⟩
    rw [whole, List.append_nil]
    exact sink.accepted_takes pieces
  · exact absurd refuses (willing.takes pieces).not_refuses

theorem writes_of_willing {payloads : List Bytes} {max : Nat}
    (fits : ∀ payload ∈ payloads, payload.length ≤ limit max) {sink : Sink}
    (willing : sink.Willing) :
    ∃ after,
      writes max payloads sink = (List.replicate payloads.length (flushed sink), after) ∧
        Sink.Took (payloads.flatMap encode) sink after := by
  induction payloads generalizing sink with
  | nil => exact ⟨sink, rfl, willing, (List.append_nil _).symm, rfl⟩
  | cons payload payloads ih =>
      obtain ⟨middle, written, took⟩ := write_of_willing (fits payload List.mem_cons_self) willing
      obtain ⟨after, others, tookOthers⟩ :=
        ih (fun other member => fits other (List.mem_cons_of_mem _ member)) took.willing
      have sameFlush : flushed middle = flushed sink := by
        rw [flushed, flushed, took.flushError]
      refine ⟨after, ?_, tookOthers.willing, ?_, ?_⟩
      · simp only [writes, written, others, sameFlush]
        rfl
      · rw [tookOthers.accepted, took.accepted, List.flatMap_cons, List.append_assoc]
      · rw [tookOthers.flushError, took.flushError]

/-! Reading -/

theorem read_of_short {max : Nat} {chunks : List Bytes}
    (short : chunks.flatten.length < headerSize) :
    read max (.ofChunks chunks) = ⟨.failed .closed, .ofChunks [], []⟩ := by
  rw [read, Source.pull_ofChunks_of_lt short]
  rfl

/-- With a header at the front of the bytes, what it announces decides what is read next. -/
theorem read_of_header (max : Nat) (later : Source) {chunks : List Bytes}
    (headed : headerSize ≤ chunks.flatten.length) {length : Nat} {found : UInt8}
    (announces : announced (chunks.flatten.take headerSize) = (length, found)) :
    ∃ body : List Bytes, body.flatten = chunks.flatten.drop headerSize ∧
      read max (later.ahead chunks) =
        if found ≠ version then
          ⟨.failed (.protocol (unsupportedVersion found)), later.ahead body, []⟩
        else if limit max < length then
          skipPayload length (limit max) (later.ahead chunks) (later.ahead body)
        else readPayload length (later.ahead chunks) (later.ahead body) := by
  obtain ⟨body, pulled, flat⟩ := later.pull_ahead_of_le headed
  refine ⟨body, flat, ?_⟩
  rw [read, pulled]
  simp only [announces]
  rfl

/-- One frame at the front of the bytes is read, or passed over, to its last byte. -/
theorem read_of_frame (max : Nat) (later : Source) {payload rest : Bytes} {chunks : List Bytes}
    (fits : payload.length < 4294967296) (cut : chunks.flatten = encode payload ++ rest) :
    ∃ left : List Bytes, left.flatten = rest ∧
      (read max (later.ahead chunks)).result = delivery max payload ∧
      (read max (later.ahead chunks)).state = later.ahead left := by
  have cut' : chunks.flatten = header payload ++ (payload ++ rest) := by
    rw [cut, encode, List.append_assoc]
  have headed : headerSize ≤ chunks.flatten.length := by
    rw [cut', List.length_append, length_header]
    exact Nat.le_add_right _ _
  have supported : announced (chunks.flatten.take headerSize) = (payload.length, version) := by
    rw [cut', List.take_left' (length_header payload), announced_header fits]
  obtain ⟨body, flatBody, unfolded⟩ := read_of_header max later headed supported
  rw [cut', List.drop_left' (length_header payload)] at flatBody
  have whole : payload.length ≤ body.flatten.length := by
    rw [flatBody, List.length_append]
    exact Nat.le_add_right _ _
  obtain ⟨left, pulledBody, flatLeft⟩ := later.pull_ahead_of_le whole
  rw [flatBody, List.take_left] at pulledBody
  rw [flatBody, List.drop_left] at flatLeft
  refine ⟨left, flatLeft, ?_⟩
  rw [unfolded, if_neg (not_not_intro rfl), delivery]
  by_cases large : limit max < payload.length
  · rw [if_pos large, if_neg (Nat.not_le.mpr large), skipPayload, pulledBody]
    exact ⟨rfl, rfl⟩
  · rw [if_neg large, if_pos (Nat.le_of_not_lt large), readPayload, pulledBody]
    exact ⟨rfl, rfl⟩

theorem reads_of_end {max : Nat} {chunks : List Bytes} (nothing : chunks.flatten = []) (n : Nat) :
    reads max n (.ofChunks chunks) = List.replicate n (.failed .closed) := by
  induction n generalizing chunks with
  | zero => rfl
  | succ n ih =>
      have short : chunks.flatten.length < headerSize := by rw [nothing]; decide
      rw [reads, read_of_short short, List.replicate_succ]
      exact congrArg _ (ih rfl)

theorem reads_of_frames (max : Nat) {payloads : List Bytes} {chunks : List Bytes}
    (fits : ∀ payload ∈ payloads, payload.length < 4294967296)
    (cut : chunks.flatten = payloads.flatMap encode) (later : Nat) :
    reads max (payloads.length + later) (.ofChunks chunks) =
      payloads.map (delivery max) ++ List.replicate later (.failed .closed) := by
  induction payloads generalizing chunks with
  | nil =>
      rw [List.length_nil, Nat.zero_add, List.map_nil, List.nil_append]
      exact reads_of_end cut later
  | cons payload payloads ih =>
      rw [List.flatMap_cons] at cut
      obtain ⟨left, flat, result, state⟩ :=
        read_of_frame max ⟨[], false⟩ (fits payload List.mem_cons_self) cut
      rw [← Source.ofChunks_eq] at result state
      rw [← Source.ofChunks_eq] at state
      rw [List.length_cons, Nat.add_right_comm, reads, result, state, List.map_cons,
        List.cons_append]
      exact congrArg _ (ih (fun other member => fits other (List.mem_cons_of_mem _ member)) flat)

/-! Writing, and reading what was written -/

/-- Datagrams written one after another to a willing sink are read back one after another, each
whole or refused on its own account, and then the end is found as often as one asks. -/
theorem reads_of_writes {maxWrite : Nat} (maxRead : Nat) {payloads : List Bytes}
    (fits : ∀ payload ∈ payloads, payload.length ≤ limit maxWrite) {sink : Sink}
    (willing : sink.Willing) {chunks : List Bytes}
    (cut : (writes maxWrite payloads sink).2.accepted = sink.accepted ++ chunks.flatten)
    (later : Nat) :
    (writes maxWrite payloads sink).1 = List.replicate payloads.length (flushed sink) ∧
      reads maxRead (payloads.length + 1 + later) (.ofChunks chunks) =
        payloads.map (delivery maxRead) ++ List.replicate (1 + later) (.failed .closed) := by
  obtain ⟨after, written, took⟩ := writes_of_willing fits willing
  rw [written] at cut ⊢
  have flat : chunks.flatten = payloads.flatMap encode :=
    (List.append_cancel_left (took.accepted.symm.trans cut)).symm
  have small : ∀ payload ∈ payloads, payload.length < 4294967296 := by
    intro payload member
    have bounded := Nat.le_trans (fits payload member) (limit_le_maxSize maxWrite)
    exact Nat.lt_of_le_of_lt bounded (by decide)
  refine ⟨rfl, ?_⟩
  rw [Nat.add_assoc]
  exact reads_of_frames maxRead small flat (1 + later)

/-- A frame that is too large for its reader between two that are not, the first of them empty. -/
theorem reads_of_writes_past_large_frame :
    reads 1 6 (.ofChunks [[0, 0, 0, 0], [1, 0, 0], [0, 2, 1, 7], [8, 0, 0, 0, 1], [], [1, 9]]) =
      [.datagram [], .failed (.tooLarge 2 1), .datagram [9], .failed .closed, .failed .closed,
        .failed .closed] := by
  let sink : Sink := { perWrite := some 3, portions := [2, 1, 7] }
  let chunks : List Bytes :=
    [[0, 0, 0, 0], [1, 0, 0], [0, 2, 1, 7], [8, 0, 0, 0, 1], [], [1, 9]]
  have fits : ∀ payload ∈ [[], [7, 8], [(9 : UInt8)]], payload.length ≤ limit 2 := by decide
  have willing : sink.Willing := ⟨rfl, by decide, by decide⟩
  have cut : (writes 2 [[], [7, 8], [9]] sink).2.accepted = sink.accepted ++ chunks.flatten := by
    decide +kernel
  exact (reads_of_writes 1 fits willing cut 2).2

end Heartbeat.Frame
