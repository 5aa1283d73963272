import Heartbeat.Proofs.Stream.Frame

/-!
Sending a datagram to any sink. A sink may have any room, take any part of every write, refuse with
an error or in silence, and fail to flush: what it has taken is the front of the datagram's frame,
and the sender is told whether that is all of it.
-/

namespace Heartbeat.Frame

/-- How a datagram was sent to a sink of which the front of the frame is known that it has taken. -/
structure Sent (payload : Bytes) (max : Nat) (before : Sink) (taken : Bytes)
    (result : Except ChannelFault Unit) (after : Sink) : Prop where
  /-- The sink has the front of the frame, behind what it had before. -/
  accepted : taken <+: encode payload ∧ after.accepted = before.accepted ++ taken
  ok_iff : result = .ok () ↔
    payload.length ≤ limit max ∧ taken = encode payload ∧ before.flushError = none
  /-- It is flushed once if it has the whole frame, and else not at all. -/
  flushes : after.flushes = if taken = encode payload then before.flushes + 1 else before.flushes
  tooLarge : limit max < payload.length →
    result = .error (.tooLarge payload.length (limit max)) ∧ after = before
  /-- The sink did refuse the next write, and its error is passed on. -/
  refused : payload.length ≤ limit max → taken ≠ encode payload →
    after.Refuses ∧ result = .error (.io (before.full.getD ⟨.writeZero, "write zero"⟩))
  unflushed : payload.length ≤ limit max → taken = encode payload →
    ∀ error, before.flushError = some error → result = .error (.io error)
  /-- The length always fits the header, and is what the header says. -/
  length : (∀ why, result ≠ .error (.protocol why)) ∧
    (payload.length ≤ limit max → announced (header payload) = (payload.length, version))

theorem encode_ne_nil (payload : Bytes) : encode payload ≠ [] :=
  List.append_ne_nil_of_left_ne_nil (List.append_ne_nil_of_right_ne_nil _ (List.cons_ne_nil _ _)) _

theorem sent_of_large {payload : Bytes} {max : Nat} (large : limit max < payload.length)
    (sink : Sink) :
    Sent payload max sink [] (write payload max sink).1 (write payload max sink).2 := by
  have refused : write payload max sink =
      (.error (.tooLarge payload.length (limit max)), sink) := if_pos large
  have fits : ¬ payload.length ≤ limit max := Nat.not_le.mpr large
  rw [refused]
  exact {
    accepted := ⟨List.nil_prefix, (List.append_nil _).symm⟩
    ok_iff := ⟨nofun, fun ok => absurd ok.1 fits⟩
    flushes := (if_neg (encode_ne_nil payload).symm).symm
    tooLarge := fun _ => ⟨rfl, rfl⟩
    refused := fun small => absurd small fits
    unflushed := fun small => absurd small fits
    length := ⟨nofun, fun small => absurd small fits⟩ }

theorem flushed_eq_ok_iff (sink : Sink) : flushed sink = .ok () ↔ sink.flushError = none := by
  unfold flushed
  cases sink.flushError <;> simp

theorem flushed_ne_protocol (sink : Sink) (why : String) :
    flushed sink ≠ .error (.protocol why) := by
  unfold flushed
  cases sink.flushError <;> simp

theorem sent_of_whole {payload : Bytes} {max : Nat} {pieces : List Bytes}
    (fits : payload.length ≤ limit max) (whole : pieces.flatten = encode payload) (sink : Sink) :
    Sent payload max sink (encode payload) (flushed sink)
      { sink.takes pieces with flushes := sink.flushes + 1 } where
  accepted := ⟨List.prefix_refl _, by rw [← whole]; exact sink.accepted_takes pieces⟩
  ok_iff := (flushed_eq_ok_iff sink).trans
    ⟨fun flushes => ⟨fits, rfl, flushes⟩, fun ok => ok.2.2⟩
  flushes := (if_pos rfl).symm
  tooLarge large := absurd fits (Nat.not_le.mpr large)
  refused _ incomplete := absurd rfl incomplete
  unflushed _ _ error fails := by rw [flushed, fails]
  length := ⟨flushed_ne_protocol sink, fun _ => announced_header (lt_of_le_limit fits)⟩

theorem sent_of_part {payload left : Bytes} {max : Nat} {pieces : List Bytes} {sink : Sink}
    (fits : payload.length ≤ limit max) (whole : encode payload = pieces.flatten ++ left)
    (some : left ≠ []) (refuses : (sink.takes pieces).Refuses) :
    Sent payload max sink pieces.flatten (.error (.io sink.refusal)) (sink.takes pieces) := by
  have incomplete : pieces.flatten ≠ encode payload := by
    intro all
    rw [← all] at whole
    exact some (List.self_eq_append_right.mp whole)
  exact {
    accepted := ⟨⟨left, whole.symm⟩, sink.accepted_takes pieces⟩
    ok_iff := ⟨nofun, fun ok => absurd ok.2.1 incomplete⟩
    flushes := by rw [if_neg incomplete]; exact sink.flushes_takes pieces
    tooLarge := fun large => absurd fits (Nat.not_le.mpr large)
    refused := fun _ _ => ⟨refuses, rfl⟩
    unflushed := fun _ all => absurd all incomplete
    length := ⟨nofun, fun _ => announced_header (lt_of_le_limit fits)⟩ }

theorem exists_sent_of_fits {payload : Bytes} {max : Nat} (fits : payload.length ≤ limit max)
    (sink : Sink) :
    ∃ taken, Sent payload max sink taken (write payload max sink).1 (write payload max sink).2 := by
  obtain ⟨pieces, left, whole, ⟨rfl, written⟩ | ⟨some, refuses, written⟩⟩ := write_cases fits sink
  · rw [List.append_nil] at whole
    rw [written]
    exact ⟨encode payload, sent_of_whole fits whole.symm sink⟩
  · rw [written]
    exact ⟨pieces.flatten, sent_of_part fits whole some refuses⟩

/-- Whatever the sink, it has taken the front of the frame, and the result tells whether that is all
of it and has been flushed. -/
theorem write_sends (payload : Bytes) (max : Nat) (sink : Sink) :
    ∃ taken, Sent payload max sink taken (write payload max sink).1 (write payload max sink).2 := by
  cases Nat.lt_or_ge (limit max) payload.length with
  | inl large => exact ⟨[], sent_of_large large sink⟩
  | inr fits => exact exists_sent_of_fits fits sink

end Heartbeat.Frame
