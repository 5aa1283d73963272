import Heartbeat.Proofs.Stream.Frame

/-!
Reading frames from a source that breaks off single reads and goes on after them. An interruption
between two frames costs one call and nothing else. One that strikes inside a frame leaves the
reader there, and the next call takes what follows for a header.
-/

namespace Heartbeat

namespace Piece

def isInterruption : Piece → Bool
  | .data _ => false
  | _ => true

def halt : Piece → Halt
  | .data _ => .filled
  | .lull => .ended
  | .failure error => .failed error

theorem pull_interruption {stop : Piece} (interrupts : stop.isInterruption = true) (live : Bool)
    {n : Nat} (wanted : 0 < n) (later : List Piece) :
    pull live n (stop :: later) = ⟨[], stop.halt, later⟩ := by
  obtain ⟨n, rfl⟩ := Nat.exists_eq_add_of_lt wanted
  rw [Nat.zero_add]
  cases stop with
  | data bytes => exact absurd interrupts Bool.false_ne_true
  | lull => rfl
  | failure error => rfl

/-- An interruption stands behind the first `k` bytes. -/
def InterruptedAt (pieces : List Piece) (k : Nat) : Prop :=
  ∃ before stop after, pieces = before ++ stop :: after ∧ stop.isInterruption = true ∧
    (before.flatMap bytes).length = k

theorem InterruptedAt.cons {pieces : List Piece} (interrupted : InterruptedAt pieces k)
    (piece : Piece) : InterruptedAt (piece :: pieces) (piece.bytes.length + k) := by
  obtain ⟨before, stop, after, rfl, interrupts, rfl⟩ := interrupted
  exact ⟨piece :: before, stop, after, rfl, interrupts, by
    rw [List.flatMap_cons, List.length_append]⟩

theorem not_interruptedAt_nil (k : Nat) : ¬ InterruptedAt [] k := by
  rintro ⟨before, stop, after, same, -, -⟩
  exact List.append_ne_nil_of_right_ne_nil before (List.cons_ne_nil stop after) same.symm

/-- An interruption is the first piece or stands behind it. -/
theorem InterruptedAt.split {piece : Piece} {pieces : List Piece} {k : Nat}
    (interrupted : InterruptedAt (piece :: pieces) k) :
    piece.isInterruption = true ∧ k = 0 ∨
      ∃ j, InterruptedAt pieces j ∧ k = piece.bytes.length + j := by
  obtain ⟨before, stop, after, same, interrupts, rfl⟩ := interrupted
  cases before with
  | nil =>
      cases same
      exact .inl ⟨interrupts, rfl⟩
  | cons first before =>
      cases same
      exact .inr ⟨_, ⟨before, stop, after, rfl, interrupts, rfl⟩, by
        rw [List.flatMap_cons, List.length_append]⟩

theorem exists_chunks (pieces : List Piece) :
    ∃ chunks : List Bytes, pieces = chunks.map .data ∨
      ∃ stop after, pieces = chunks.map .data ++ stop :: after ∧ stop.isInterruption = true := by
  induction pieces with
  | nil => exact ⟨[], .inl rfl⟩
  | cons piece pieces ih =>
      cases piece with
      | data bytes =>
          obtain ⟨chunks, rfl | ⟨stop, after, rfl, interrupts⟩⟩ := ih
          · exact ⟨bytes :: chunks, .inl rfl⟩
          · exact ⟨bytes :: chunks, .inr ⟨stop, after, rfl, interrupts⟩⟩
      | lull => exact ⟨[], .inr ⟨.lull, pieces, rfl, rfl⟩⟩
      | failure error => exact ⟨[], .inr ⟨.failure error, pieces, rfl, rfl⟩⟩

end Piece

namespace Source

open Piece (InterruptedAt)

/-- What some reads leave of a source. No interruption moves against the bytes. -/
structure Leaves (source left : Source) (read : Bytes) : Prop where
  bytes : source.bytes = read ++ left.bytes
  interrupted : ∀ k, InterruptedAt left.pieces k → InterruptedAt source.pieces (read.length + k)

theorem Leaves.refl (source : Source) : source.Leaves source [] where
  bytes := rfl
  interrupted k at_k := by rwa [List.length_nil, Nat.zero_add]

theorem Leaves.trans {source middle left : Source} {read more : Bytes}
    (first : source.Leaves middle read) (second : middle.Leaves left more) :
    source.Leaves left (read ++ more) where
  bytes := by rw [first.bytes, second.bytes, List.append_assoc]
  interrupted k at_k := by
    rw [List.length_append, Nat.add_assoc]
    exact first.interrupted _ (second.interrupted k at_k)

theorem Leaves.data {bytes : Bytes} {pieces left : List Piece} {live : Bool} {read : Bytes}
    (leaves : Leaves ⟨pieces, live⟩ ⟨left, live⟩ read) :
    Leaves ⟨.data bytes :: pieces, live⟩ ⟨left, live⟩ (bytes ++ read) where
  bytes := by
    have same := congrArg (bytes ++ ·) leaves.bytes
    rwa [← List.append_assoc] at same
  interrupted k at_k := by
    have later := (leaves.interrupted k at_k).cons (.data bytes)
    rwa [← Nat.add_assoc, ← List.length_append] at later

theorem leaves_interruption {stop : Piece} (interrupts : stop.isInterruption = true)
    (pieces : List Piece) (live : Bool) : Leaves ⟨stop :: pieces, live⟩ ⟨pieces, live⟩ [] where
  bytes := by
    cases stop with
    | data bytes => exact absurd interrupts Bool.false_ne_true
    | lull => rfl
    | failure error => rfl
  interrupted k at_k := by
    have later := at_k.cons stop
    cases stop with
    | data bytes => exact absurd interrupts Bool.false_ne_true
    | lull => exact later
    | failure error => exact later

theorem leaves_pull (n : Nat) (source : Source) :
    source.Leaves { source with pieces := (source.pull n).rest } (source.pull n).bytes := by
  obtain ⟨pieces, live⟩ := source
  unfold pull
  fun_induction Piece.pull live n pieces with
  | case1 pieces => exact .refl _
  | case2 n => exact .refl _
  | case3 n pieces => exact leaves_interruption rfl pieces live
  | case4 n error pieces => exact leaves_interruption rfl pieces live
  | case5 n bytes pieces inside =>
      constructor
      · show bytes ++ _ = bytes.take (n + 1) ++ (bytes.drop (n + 1) ++ _)
        rw [← List.append_assoc, List.take_append_drop]
      · intro k at_k
        obtain ⟨interrupts, -⟩ | ⟨j, later, rfl⟩ := at_k.split
        · exact absurd interrupts Bool.false_ne_true
        · rw [← Nat.add_assoc, Piece.bytes, ← List.length_append, List.take_append_drop]
          exact later.cons (.data bytes)
  | case6 n bytes pieces whole more ih => exact ih.data

end Source

namespace Frame

open Piece (InterruptedAt)

theorem leaves_read (max : Nat) (source : Source) :
    ∃ taken, source.Leaves (read max source).state taken := by
  have header := source.leaves_pull headerSize
  unfold read
  simp only
  split
  · exact ⟨_, header⟩
  · exact ⟨_, header⟩
  · exact ⟨_, .refl source⟩
  · split
    · exact ⟨_, header⟩
    · have payload := Source.leaves_pull (announced (source.pull headerSize).bytes).1
        { source with pieces := (source.pull headerSize).rest }
      split
      · unfold skipPayload
        simp only
        split
        · exact ⟨_, header.trans payload⟩
        · exact ⟨_, .refl source⟩
        · exact ⟨_, header.trans payload⟩
      · unfold readPayload
        simp only
        split
        · exact ⟨_, header.trans payload⟩
        · exact ⟨_, header.trans payload⟩
        · exact ⟨_, header.trans payload⟩
        · exact ⟨_, .refl source⟩

/-! Calls -/

def afterReads (max : Nat) : Nat → Source → Source
  | 0, source => source
  | n + 1, source => afterReads max n (read max source).state

theorem leaves_afterReads (max n : Nat) (source : Source) :
    ∃ taken, source.Leaves (afterReads max n source) taken := by
  induction n generalizing source with
  | zero => exact ⟨[], .refl source⟩
  | succ n ih =>
      obtain ⟨first, leaves⟩ := leaves_read max source
      obtain ⟨others, leavesOthers⟩ := ih (read max source).state
      exact ⟨first ++ others, leaves.trans leavesOthers⟩

end Frame

namespace Reception

/-- The only failure on which a receiver drops its session. -/
def endsSession : Reception → Bool
  | .failed (.protocol _) => true
  | _ => false

/-- The datagram of a frame, or its refusal. -/
def concernsFrame : Reception → Bool
  | .datagram _ => true
  | .failed (.tooLarge _ _) => true
  | _ => false

/-- Nothing read and nothing lost. -/
structure Idle (result : Reception) : Prop where
  concernsFrame : result.concernsFrame = false
  endsSession : result.endsSession = false

theorem Idle.closed : Idle (.failed .closed) := ⟨rfl, rfl⟩

theorem Idle.waiting : Idle .waiting := ⟨rfl, rfl⟩

theorem Idle.ofRead (error : IoError) : Idle (.failed (.ofRead error)) := by
  unfold ChannelFault.ofRead
  split <;> exact ⟨rfl, rfl⟩

end Reception

namespace Frame

open Piece (InterruptedAt)

theorem concernsFrame_delivery (max : Nat) (payload : Bytes) :
    (delivery max payload).concernsFrame = true := by
  unfold delivery
  split <;> rfl

theorem endsSession_delivery (max : Nat) (payload : Bytes) :
    (delivery max payload).endsSession = false := by
  unfold delivery
  split <;> rfl

/-- How a call fails that an interruption breaks off before the payload. -/
def faultAt : Piece → ChannelFault
  | .failure error => .ofRead error
  | _ => .closed

theorem idle_faultAt (stop : Piece) : (Reception.failed (faultAt stop)).Idle := by
  cases stop with
  | data bytes => exact .closed
  | lull => exact .closed
  | failure error => exact .ofRead error

theorem read_of_interrupted_header (max : Nat) {stop : Piece}
    (interrupts : stop.isInterruption = true) (later : List Piece) (live : Bool)
    {chunks : List Bytes} (short : chunks.flatten.length < headerSize) :
    read max (Source.ahead ⟨stop :: later, live⟩ chunks) =
      ⟨.failed (faultAt stop), ⟨later, live⟩, []⟩ := by
  have stopped := Piece.pull_interruption interrupts live (Nat.sub_pos_of_lt short) later
  rw [read, Source.pull_ahead_of_lt _ short, Source.pull, stopped]
  cases stop with
  | data bytes => exact absurd interrupts Bool.false_ne_true
  | lull => rfl
  | failure error => rfl

/-- A payload that is too large is refused as such when it ends early, but not when a read fails. -/
theorem read_of_interrupted_payload (max : Nat) {stop : Piece}
    (interrupts : stop.isInterruption = true) (later : List Piece) (live : Bool)
    {payload started : Bytes} (fits : payload.length < 4294967296)
    (short : started.length < payload.length) {chunks : List Bytes}
    (cut : chunks.flatten = header payload ++ started) :
    ∃ fault notices,
      read max (Source.ahead ⟨stop :: later, live⟩ chunks) =
          ⟨.failed fault, ⟨later, live⟩, notices⟩ ∧
        (Reception.failed fault).endsSession = false := by
  have headed : headerSize ≤ chunks.flatten.length := by
    rw [cut, List.length_append, length_header]
    exact Nat.le_add_right _ _
  have supported : announced (chunks.flatten.take headerSize) = (payload.length, version) := by
    rw [cut, List.take_left' (length_header payload), announced_header fits]
  obtain ⟨body, flat, unfolded⟩ := read_of_header max ⟨stop :: later, live⟩ headed supported
  rw [cut, List.drop_left' (length_header payload)] at flat
  have unfinished : body.flatten.length < payload.length := by rwa [flat]
  have stopped := Piece.pull_interruption interrupts live (Nat.sub_pos_of_lt unfinished) later
  rw [unfolded, if_neg (not_not_intro rfl)]
  split
  · rw [skipPayload, Source.pull_ahead_of_lt _ unfinished, Source.pull, stopped]
    cases stop with
    | data bytes => exact absurd interrupts Bool.false_ne_true
    | lull => exact ⟨_, _, rfl, rfl⟩
    | failure error => exact ⟨_, _, rfl, (Reception.Idle.ofRead error).endsSession⟩
  · rw [readPayload, Source.pull_ahead_of_lt _ unfinished, Source.pull, stopped]
    cases stop with
    | data bytes => exact absurd interrupts Bool.false_ne_true
    | lull => exact ⟨_, _, rfl, rfl⟩
    | failure error => exact ⟨_, _, rfl, (Reception.Idle.ofRead error).endsSession⟩

/-- A call on a source whose first frame an interruption breaks. It fails in a way that keeps the
session, and its reader stays where the interruption was. -/
structure Struck (max : Nat) (payload : Bytes) (source : Source) : Prop where
  inside : ∃ chunks stop,
    source = ({ (read max source).state with
      pieces := stop :: (read max source).state.pieces } : Source).ahead chunks ∧
    stop.isInterruption = true ∧ 0 < chunks.flatten.length ∧
    chunks.flatten.length < (encode payload).length
  fails : ∃ fault, (read max source).result = .failed fault
  session : (read max source).result.endsSession = false

theorem struck_of_interrupted (max : Nat) {stop : Piece}
    (interrupts : stop.isInterruption = true) (later : List Piece) (live : Bool)
    {payload rest behind : Bytes} (fits : payload.length < 4294967296) {chunks : List Bytes}
    (started : 0 < chunks.flatten.length)
    (inside : chunks.flatten.length < (encode payload).length)
    (framed : chunks.flatten ++ rest = encode payload ++ behind) :
    Struck max payload (Source.ahead ⟨stop :: later, live⟩ chunks) := by
  have broken : ∃ fault notices,
      read max (Source.ahead ⟨stop :: later, live⟩ chunks) =
          ⟨.failed fault, ⟨later, live⟩, notices⟩ ∧
        (Reception.failed fault).endsSession = false := by
    by_cases short : chunks.flatten.length < headerSize
    · exact ⟨_, _, read_of_interrupted_header max interrupts later live short,
        (idle_faultAt stop).endsSession⟩
    · have headed : (header payload).length ≤ chunks.flatten.length := Nat.le_of_not_lt short
      have front : chunks.flatten = (encode payload).take chunks.flatten.length := by
        rw [← List.take_append_of_le_length (Nat.le_of_lt inside), ← framed, List.take_left]
      rw [encode, List.length_append] at inside
      rw [encode, List.take_append, List.take_of_length_le headed] at front
      refine read_of_interrupted_payload max interrupts later live fits ?_ front
      rw [List.length_take]
      omega
  obtain ⟨fault, notices, same, session⟩ := broken
  exact {
    inside := ⟨chunks, stop, by rw [same], interrupts, started, inside⟩
    fails := ⟨fault, by rw [same]⟩
    session := by rwa [same] }

/-- At a frame, a call finds nothing to read, or brings that frame, or is broken off inside it. -/
def MeetsFrame (max : Nat) (payloads : List Bytes) (source : Source) : Prop :=
  ((read max source).result.Idle ∧ (read max source).state.bytes = source.bytes) ∨
    ∃ payload rest, payloads = payload :: rest ∧
      ((read max source).result = delivery max payload ∧
          (read max source).state.bytes = rest.flatMap encode ∨
        Struck max payload source)

theorem meetsFrame_of_chunks (max : Nat) {payloads : List Bytes}
    (fits : ∀ payload ∈ payloads, payload.length < 4294967296) (live : Bool) {chunks : List Bytes}
    (framed : chunks.flatten = payloads.flatMap encode) :
    MeetsFrame max payloads (Source.ahead ⟨[], live⟩ chunks) := by
  cases payloads with
  | nil =>
      have short : chunks.flatten.length < headerSize := by rw [framed]; decide
      left
      rw [read, Source.pull_ahead_of_lt _ short, framed]
      cases live with
      | false => exact ⟨.closed, by rw [Source.bytes_ahead, framed]; rfl⟩
      | true => exact ⟨.waiting, rfl⟩
  | cons payload rest =>
      rw [List.flatMap_cons] at framed
      obtain ⟨left, flat, result, state⟩ :=
        read_of_frame max ⟨[], live⟩ (fits payload List.mem_cons_self) framed
      refine .inr ⟨payload, rest, rfl, .inl ⟨result, ?_⟩⟩
      rw [state, Source.bytes_ahead, flat]
      exact List.append_nil _

/-- An interruption between two frames is met at once, and one behind the next frame not at all. -/
theorem meetsFrame_of_interrupted (max : Nat) {payloads : List Bytes}
    (fits : ∀ payload ∈ payloads, payload.length < 4294967296) {stop : Piece}
    (interrupts : stop.isInterruption = true) (after : List Piece) (live : Bool)
    {chunks : List Bytes}
    (framed : chunks.flatten ++ Source.bytes ⟨stop :: after, live⟩ = payloads.flatMap encode) :
    MeetsFrame max payloads (Source.ahead ⟨stop :: after, live⟩ chunks) := by
  cases Nat.eq_zero_or_pos chunks.flatten.length with
  | inl none_ahead =>
      have short : chunks.flatten.length < headerSize := by rw [none_ahead]; decide
      have silent : Source.bytes ⟨stop :: after, live⟩ = Source.bytes ⟨after, live⟩ :=
        (Source.leaves_interruption interrupts after live).bytes
      left
      rw [read_of_interrupted_header max interrupts after live short, Source.bytes_ahead,
        List.eq_nil_of_length_eq_zero none_ahead]
      exact ⟨idle_faultAt stop, silent.symm⟩
  | inr started =>
      cases payloads with
      | nil =>
          rw [(List.append_eq_nil_iff.mp framed).1] at started
          exact absurd started (Nat.lt_irrefl 0)
      | cons payload rest =>
          have fitting := fits payload List.mem_cons_self
          rw [List.flatMap_cons] at framed
          refine .inr ⟨payload, rest, rfl, ?_⟩
          cases Nat.lt_or_ge chunks.flatten.length (encode payload).length with
          | inl inside =>
              exact .inr (struck_of_interrupted max interrupts after live fitting started inside
                framed)
          | inr whole =>
              have first : encode payload <+: chunks.flatten ++ Source.bytes ⟨stop :: after, live⟩ :=
                ⟨_, framed.symm⟩
              obtain ⟨more, cut⟩ :=
                List.prefix_of_prefix_length_le first (List.prefix_append _ _) whole
              obtain ⟨left, flat, result, state⟩ :=
                read_of_frame max ⟨stop :: after, live⟩ fitting cut.symm
              rw [← cut, List.append_assoc] at framed
              refine .inl ⟨result, ?_⟩
              rw [state, Source.bytes_ahead, flat]
              exact List.append_cancel_left framed

theorem meetsFrame (max : Nat) {payloads : List Bytes}
    (fits : ∀ payload ∈ payloads, payload.length < 4294967296) {source : Source}
    (framed : source.bytes = payloads.flatMap encode) : MeetsFrame max payloads source := by
  obtain ⟨pieces, live⟩ := source
  obtain ⟨chunks, rfl | ⟨stop, after, rfl, interrupts⟩⟩ := Piece.exists_chunks pieces
  · have same : Source.mk (chunks.map .data) live = Source.ahead ⟨[], live⟩ chunks := by
      rw [Source.ahead, List.append_nil]
    rw [same, Source.bytes_ahead] at framed
    rw [same]
    exact meetsFrame_of_chunks max fits live ((List.append_nil _).symm.trans framed)
  · have same : Source.mk (chunks.map .data ++ stop :: after) live =
        Source.ahead ⟨stop :: after, live⟩ chunks := rfl
    rw [same, Source.bytes_ahead] at framed
    exact meetsFrame_of_interrupted max fits interrupts after live framed

/-! Rows of calls -/

/-- After `n` calls the reader stands between two frames, and each frame before it has been handed
over or refused, in their order. -/
structure InStep (max : Nat) (payloads : List Bytes) (source : Source) (n : Nat)
    (passed rest : List Bytes) : Prop where
  all : payloads = passed ++ rest
  left : (afterReads max n source).bytes = rest.flatMap encode
  results : (reads max n source).filter Reception.concernsFrame = passed.map (delivery max)
  session : ∀ result ∈ reads max n source, result.endsSession = false

variable {max : Nat} {payloads passed rest : List Bytes} {source : Source} {n : Nat}

theorem InStep.zero (framed : source.bytes = payloads.flatMap encode) :
    InStep max payloads source 0 [] payloads where
  all := rfl
  left := framed
  results := rfl
  session _ member := absurd member List.not_mem_nil

theorem InStep.idle (result : (read max source).result.Idle)
    (others : InStep max payloads (read max source).state n passed rest) :
    InStep max payloads source (n + 1) passed rest where
  all := others.all
  left := others.left
  results := by
    rw [reads, List.filter_cons_of_neg (by rw [result.concernsFrame]; exact Bool.false_ne_true)]
    exact others.results
  session answer member := by
    cases List.mem_cons.mp member with
    | inl first => rw [first, result.endsSession]
    | inr later => exact others.session answer later

theorem InStep.frame {payload : Bytes}
    (result : (read max source).result = delivery max payload)
    (others : InStep max payloads (read max source).state n passed rest) :
    InStep max (payload :: payloads) source (n + 1) (payload :: passed) rest where
  all := by rw [others.all, List.cons_append]
  left := others.left
  results := by
    rw [reads, result, List.filter_cons_of_pos (concernsFrame_delivery max payload),
      others.results, List.map_cons]
  session answer member := by
    cases List.mem_cons.mp member with
    | inl first => rw [first, result, endsSession_delivery]
    | inr later => exact others.session answer later

theorem inStep_or_struck (max : Nat)
    (fits : ∀ payload ∈ payloads, payload.length < 4294967296)
    (framed : source.bytes = payloads.flatMap encode) (n : Nat) :
    (∃ passed rest, InStep max payloads source n passed rest) ∨
      ∃ m < n, ∃ passed payload rest, InStep max payloads source m passed (payload :: rest) ∧
        Struck max payload (afterReads max m source) := by
  induction n generalizing source payloads with
  | zero => exact .inl ⟨[], payloads, .zero framed⟩
  | succ n ih =>
      obtain ⟨idle, state⟩ | ⟨payload, rest, rfl, ⟨result, state⟩ | struck⟩ :=
        meetsFrame max fits framed
      · obtain ⟨passed, rest, others⟩ | ⟨m, earlier, passed, payload, rest, others, struck⟩ :=
          ih fits (state.trans framed)
        · exact .inl ⟨passed, rest, others.idle idle⟩
        · exact .inr ⟨m + 1, Nat.succ_lt_succ earlier, passed, payload, rest, others.idle idle,
            struck⟩
      · have fitsRest : ∀ other ∈ rest, other.length < 4294967296 :=
          fun other member => fits other (List.mem_cons_of_mem _ member)
        obtain ⟨passed, rest, others⟩ | ⟨m, earlier, passed, next, rest, others, struck⟩ :=
          ih fitsRest state
        · exact .inl ⟨payload :: passed, rest, others.frame result⟩
        · exact .inr ⟨m + 1, Nat.succ_lt_succ earlier, payload :: passed, next, rest,
            others.frame result, struck⟩
      · exact .inr ⟨0, Nat.succ_pos n, [], payload, rest, .zero framed, struck⟩

/-! Where the interruptions are -/

def IsBoundary (payloads : List Bytes) (k : Nat) : Prop :=
  ∃ passed rest, payloads = passed ++ rest ∧ k = (passed.flatMap encode).length

theorem not_isBoundary_inside {payload : Bytes} {k : Nat} (started : 0 < k)
    (inside : k < (encode payload).length) :
    ¬ IsBoundary (passed ++ payload :: rest) ((passed.flatMap encode).length + k) := by
  rintro ⟨before, after, same, length⟩
  obtain ⟨between, rfl, others⟩ | ⟨between, rfl, -⟩ := List.append_eq_append_iff.mp same
  · cases between with
    | nil =>
        rw [List.append_nil] at length
        omega
    | cons first between =>
        cases others
        rw [List.flatMap_append, List.flatMap_cons, List.length_append, List.length_append]
          at length
        omega
  · rw [List.flatMap_append, List.length_append] at length
    omega

theorem Struck.interruptedAt {payload : Bytes} (struck : Struck max payload source) :
    ∃ k, 0 < k ∧ k < (encode payload).length ∧ InterruptedAt source.pieces k := by
  obtain ⟨chunks, stop, same, interrupts, started, inside⟩ := struck.inside
  refine ⟨_, started, inside, ?_⟩
  rw [same]
  refine ⟨chunks.map .data, stop, _, rfl, interrupts, ?_⟩
  rw [List.flatMap_map]
  exact congrArg List.length List.flatMap_id

theorem not_struck_of_boundaries
    (between : ∀ k, InterruptedAt source.pieces k → IsBoundary payloads k)
    (framed : source.bytes = payloads.flatMap encode) {payload : Bytes}
    (inStep : InStep max payloads source n passed (payload :: rest)) :
    ¬ Struck max payload (afterReads max n source) := by
  intro struck
  obtain ⟨k, started, inside, interrupted⟩ := struck.interruptedAt
  obtain ⟨taken, leaves⟩ := leaves_afterReads max n source
  have bytes := leaves.bytes
  rw [framed, inStep.all, inStep.left, List.flatMap_append] at bytes
  have boundary := between _ (leaves.interrupted k interrupted)
  rw [← List.append_cancel_right bytes, inStep.all] at boundary
  exact not_isBoundary_inside started inside boundary

/-- Calls hand over datagrams of the source's frames only, in the frames' order, unless one of them
has been broken off inside a frame. That call fails as if nothing were lost. With interruptions
between frames only, there is no such call. -/
theorem datagrams_of_frames (max : Nat)
    (fits : ∀ payload ∈ payloads, payload.length < 4294967296)
    (framed : source.bytes = payloads.flatMap encode) :
    (∀ n, (∃ passed rest, InStep max payloads source n passed rest) ∨
      ∃ m < n, ∃ passed payload rest, InStep max payloads source m passed (payload :: rest) ∧
        Struck max payload (afterReads max m source)) ∧
    ((∀ k, InterruptedAt source.pieces k → IsBoundary payloads k) →
      ∀ n, ∃ passed rest, InStep max payloads source n passed rest) := by
  refine ⟨inStep_or_struck max fits framed, fun between n => ?_⟩
  obtain inStep | ⟨m, _, passed, payload, rest, inStep, struck⟩ :=
    inStep_or_struck max fits framed n
  · exact inStep
  · exact absurd struck (not_struck_of_boundaries between framed inStep)

theorem datagrams_of_interrupted :
    let payloads : List Bytes := [[], [0, 0, 0, 1, 1, 65]]
    let within : Source :=
      ⟨[.data [0, 0, 0, 0, 1, 0, 0, 0, 6, 1], .lull, .data [0, 0, 0, 1, 1, 65]], false⟩
    let between : Source :=
      ⟨[.data [0, 0, 0, 0, 1], .lull, .data [0, 0, 0, 6, 1, 0, 0, 0, 1, 1, 65]], true⟩;
    (∀ n, (∃ passed rest, InStep 1 payloads within n passed rest) ∨
      ∃ m < n, ∃ passed payload rest, InStep 1 payloads within m passed (payload :: rest) ∧
        Struck 1 payload (afterReads 1 m within)) ∧
    ∀ n, ∃ passed rest, InStep 6 payloads between n passed rest := by
  intro payloads within between
  have boundaries : ∀ k, InterruptedAt between.pieces k → IsBoundary payloads k := by
    intro k interrupted
    obtain ⟨interrupts, -⟩ | ⟨k, behindFirst, rfl⟩ := interrupted.split
    · exact absurd interrupts Bool.false_ne_true
    · obtain ⟨-, rfl⟩ | ⟨k, behindLull, rfl⟩ := behindFirst.split
      · exact ⟨[[]], [[0, 0, 0, 1, 1, 65]], rfl, rfl⟩
      · obtain ⟨interrupts, -⟩ | ⟨k, atEnd, rfl⟩ := behindLull.split
        · exact absurd interrupts Bool.false_ne_true
        · exact absurd atEnd (Piece.not_interruptedAt_nil k)
  exact ⟨(datagrams_of_frames 1 (by decide) rfl).1,
    (datagrams_of_frames 6 (by decide) rfl).2 boundaries⟩

/-- The only frame of a source, and something in place of a read between its header and its
payload. -/
def brokenOff (stop : Piece) : Source :=
  ⟨[.data [0, 0, 0, 6, 1], stop, .data [0, 0, 0, 1, 1, 65]], false⟩

/-- The datagram handed over is none of the source's: it stands in the middle of the frame. -/
theorem made_up_datagrams :
    let error : IoError := ⟨⟨"TimedOut"⟩, "slow"⟩
    let payloads : List Bytes := [[0, 0, 0, 1, 1, 65]];
    (brokenOff .lull).bytes = payloads.flatMap encode ∧
      (brokenOff (.failure error)).bytes = payloads.flatMap encode ∧
      reads 1 2 (brokenOff .lull) = [.failed (.tooLarge 6 1), .datagram [65]] ∧
      reads 6 2 (brokenOff (.failure error)) = [.failed (.io error), .datagram [65]] ∧
      [65] ∉ payloads := by
  decide +kernel

end Frame

end Heartbeat
