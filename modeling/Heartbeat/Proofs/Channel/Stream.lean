import Heartbeat.Channel.Socket
import Heartbeat.Proofs.Channel.Scenario
import Heartbeat.Proofs.Stream.Accounting
import Heartbeat.Proofs.Stream.Interruption

/-!
What is heard on a stream whose other side has stopped sending. It depends on the bytes alone, not
on how they are cut, and from some receive on it is nothing but faults.
-/

namespace Heartbeat

namespace Arrival

open Heartbeat.Frame

/-- What the next receive brings when these bytes are left, and what it leaves of them. A fault of
the protocol leaves no session. -/
def next (max : Nat) (bytes : Bytes) : Arrival × Option Bytes :=
  let (length, found) := announced (bytes.take headerSize)
  let body := bytes.drop headerSize
  if bytes.length < headerSize then (.fault .closed, some [])
  else if found ≠ version then (.fault (.protocol (unsupportedVersion found)), none)
  else if limit max < length then
    (.fault (.tooLarge length (limit max)), some (body.drop length))
  else if body.length < length then (.fault .closed, some [])
  else (.datagram (body.take length), some (body.drop length))

/-- One receive after another, of a session with these bytes to come or of none. -/
def ofStream (max : Nat) : Option Bytes → Nat → Arrival
  | none, _ => .fault .notConnected
  | some bytes, 0 => (next max bytes).1
  | some bytes, n + 1 => ofStream max (next max bytes).2 n

theorem ofStream_none (max n : Nat) : ofStream max none n = .fault .notConnected := by
  cases n <;> rfl

theorem next_of_short (max : Nat) {bytes : Bytes} (short : bytes.length < headerSize) :
    next max bytes = (.fault .closed, some []) :=
  if_pos short

theorem next_of_header (max : Nat) {bytes : Bytes} (headed : ¬ bytes.length < headerSize)
    {length : Nat} {found : UInt8}
    (announces : announced (bytes.take headerSize) = (length, found)) :
    next max bytes =
      if found ≠ version then (.fault (.protocol (unsupportedVersion found)), none)
      else if limit max < length then
        (.fault (.tooLarge length (limit max)), some ((bytes.drop headerSize).drop length))
      else if (bytes.drop headerSize).length < length then (.fault .closed, some [])
      else
        (.datagram ((bytes.drop headerSize).take length),
          some ((bytes.drop headerSize).drop length)) := by
  unfold next
  simp only [announces, if_neg headed]

/-- It is what the account of a call says. -/
theorem next_account (max : Nat) (bytes : Bytes) :
    (next max bytes).1.reception = (account max bytes).result ∧
      (next max bytes).2 =
        if (account max bytes).result.endsSession then none
        else some (bytes.drop (account max bytes).taken) := by
  by_cases short : bytes.length < headerSize
  · rw [next_of_short max short, account_of_short max short, List.drop_length]
    exact ⟨rfl, rfl⟩
  · have behind : ∀ n, (bytes.drop headerSize).drop n = bytes.drop (5 + n) :=
      fun n => List.drop_drop
    rw [next_of_header max short (announced_take bytes)]
    by_cases foreign : bytes.getD 4 0 ≠ version
    · rw [if_pos foreign, account_of_foreign max short foreign]
      exact ⟨rfl, rfl⟩
    · rw [if_neg foreign, account_of_body max short foreign rfl rfl]
      generalize Bytes.ofBigEndian (bytes.take 4) = length
      by_cases large : limit max < length
      · rw [if_pos large, if_pos large, ← behind, Nat.min_comm, ← List.drop_eq_drop_min]
        exact ⟨rfl, rfl⟩
      · rw [if_neg large, if_neg large]
        by_cases cut : (bytes.drop headerSize).length < length
        · rw [if_pos cut, if_pos cut, ← behind, List.drop_length]
          exact ⟨rfl, rfl⟩
        · rw [if_neg cut, if_neg cut, ← behind]
          exact ⟨rfl, rfl⟩

theorem ofStream_nil (max n : Nat) : ofStream max (some []) n = .fault .closed := by
  have short : next max [] = (.fault .closed, some []) := next_of_short max (by decide)
  induction n with
  | zero => rw [ofStream, short]
  | succ n ih => rw [ofStream, short, ih]

/-- A receive brings a fault after which there are only faults, or it takes a whole header. -/
theorem next_cases (max : Nat) (bytes : Bytes) :
    ((next max bytes).1.isFault ∧
      ((next max bytes).2 = none ∨ (next max bytes).2 = some [])) ∨
    ∃ left, (next max bytes).2 = some left ∧ left.length < bytes.length := by
  by_cases short : bytes.length < headerSize
  · rw [next_of_short max short]
    exact .inl ⟨rfl, .inr rfl⟩
  · have shorter : ∀ length, ((bytes.drop headerSize).drop length).length < bytes.length := by
      intro length
      rw [headerSize] at short ⊢
      rw [List.length_drop, List.length_drop]
      omega
    unfold next
    simp only [if_neg short]
    split
    · exact .inl ⟨rfl, .inl rfl⟩
    · split
      · exact .inr ⟨_, rfl, shorter _⟩
      · split
        · exact .inl ⟨rfl, .inr rfl⟩
        · exact .inr ⟨_, rfl, shorter _⟩

/-- A stream is used up some time, and every receive after that fails. -/
theorem exists_faults (max : Nat) (bytes : Bytes) :
    ∃ k, ∀ n, k ≤ n → (ofStream max (some bytes) n).isFault := by
  induction size : bytes.length using Nat.strongRecOn generalizing bytes with
  | ind size ih =>
      subst size
      obtain ⟨-, none | empty⟩ | ⟨left, rest, shorter⟩ := next_cases max bytes
      · refine ⟨1, fun n late => ?_⟩
        obtain ⟨n, rfl⟩ := Nat.exists_eq_add_of_le' late
        rw [ofStream, none, ofStream_none]
        rfl
      · refine ⟨1, fun n late => ?_⟩
        obtain ⟨n, rfl⟩ := Nat.exists_eq_add_of_le' late
        rw [ofStream, empty, ofStream_nil]
        rfl
      · obtain ⟨k, faults⟩ := ih left.length shorter left rfl
        refine ⟨k + 1, fun n late => ?_⟩
        obtain ⟨n, rfl⟩ := Nat.exists_eq_add_of_le' (Nat.le_trans (Nat.le_add_left 1 k) late)
        rw [ofStream, rest]
        exact faults n (Nat.le_of_succ_le_succ late)

/-- Nothing else is heard on a stream. -/
theorem ofStream_cases (max : Nat) (left : Option Bytes) (n : Nat) :
    (∃ fault, ofStream max left n = .fault fault) ∨
      ∃ bytes, ofStream max left n = .datagram bytes := by
  induction n generalizing left with
  | zero =>
      cases left with
      | none => exact .inl ⟨_, rfl⟩
      | some bytes =>
          rw [ofStream]
          unfold next
          simp only
          split
          · exact .inl ⟨_, rfl⟩
          · split
            · exact .inl ⟨_, rfl⟩
            · split
              · exact .inl ⟨_, rfl⟩
              · split
                · exact .inl ⟨_, rfl⟩
                · exact .inr ⟨_, rfl⟩
  | succ n ih =>
      cases left with
      | none => exact .inl ⟨_, rfl⟩
      | some bytes => exact ih _

theorem ofStream_ne (max : Nat) (left : Option Bytes) (n : Nat) :
    ofStream max left n ≠ .silence ∧ ofStream max left n ≠ .crash := by
  obtain ⟨fault, same⟩ | ⟨bytes, same⟩ := ofStream_cases max left n
  · rw [same]
    exact ⟨Arrival.noConfusion, Arrival.noConfusion⟩
  · rw [same]
    exact ⟨Arrival.noConfusion, Arrival.noConfusion⟩

end Arrival

namespace Frame

/-- What a call makes of the bytes that are left. -/
structure Hears (max : Nat) (bytes : Bytes) (answer : Answer Source Reception) : Prop where
  result : answer.result = (Arrival.next max bytes).1.reception
  session : answer.result.endsSession = (Arrival.next max bytes).2.isNone
  left : ∀ left ∈ (Arrival.next max bytes).2,
    ∃ chunks : List Bytes, chunks.flatten = left ∧ answer.state = .ofChunks chunks

theorem hears_read (max : Nat) (chunks : List Bytes) :
    Hears max chunks.flatten (read max (.ofChunks chunks)) := by
  obtain ⟨left, flat, same⟩ := read_ofChunks max chunks
  obtain ⟨result, rest⟩ := Arrival.next_account max chunks.flatten
  rw [same]
  cases ends : (account max chunks.flatten).result.endsSession with
  | true =>
      rw [ends, if_pos rfl] at rest
      exact ⟨result.symm, by rw [rest]; exact ends, by rw [rest]; exact nofun⟩
  | false =>
      rw [ends, if_neg Bool.false_ne_true] at rest
      refine ⟨result.symm, by rw [rest]; exact ends, ?_⟩
      rw [rest]
      rintro _ ⟨⟩
      exact ⟨left, flat, rfl⟩

end Frame

end Heartbeat
