import Heartbeat.Proofs.Stream.Frame

/-!
What one call for a datagram takes of a source that ends some time, to the byte. It depends on the
bytes that are left and on the reader's limit, and not on how the bytes are cut.
-/

namespace Heartbeat.Frame

/-- How a call ends, how many bytes it takes, and what it puts into the log. -/
structure Account where
  result : Reception
  taken : Nat
  notices : List Notice := []

/-- The account of a call when these bytes are left and the source ends behind them. -/
def account (max : Nat) (bytes : Bytes) : Account :=
  let length := Bytes.ofBigEndian (bytes.take 4)
  let found := bytes.getD 4 0
  if bytes.length < 5 then { result := .failed .closed, taken := bytes.length }
  else if found ≠ version then
    { result := .failed (.protocol (unsupportedVersion found)), taken := 5 }
  else if limit max < length then
    let taken := min bytes.length (5 + length)
    { result := .failed (.tooLarge length (limit max))
      taken := taken
      notices := [discarded (taken - 5) length] }
  else if bytes.length < 5 + length then { result := .failed .closed, taken := bytes.length }
  else { result := .datagram ((bytes.drop 5).take length), taken := 5 + length }

theorem announced_take (bytes : Bytes) :
    announced (bytes.take headerSize) =
      (Bytes.ofBigEndian (bytes.take 4), bytes.getD 4 0) := by
  simp only [announced, headerSize, List.take_take, List.getD_eq_getElem?_getD,
    List.getElem?_take_of_lt (show 4 < 5 by decide)]
  rfl

theorem taken_account_le (max : Nat) (bytes : Bytes) :
    (account max bytes).taken ≤ bytes.length := by
  unfold account
  simp only
  split
  · exact Nat.le_refl _
  · rename_i headed
    split
    · exact Nat.le_of_not_lt headed
    · split
      · exact Nat.min_le_left _ _
      · split
        · exact Nat.le_refl _
        · rename_i whole
          exact Nat.le_of_not_lt whole

/-! The payload -/

theorem skipPayload_ofChunks (length bound : Nat) (before : Source) (body : List Bytes) :
    ∃ left : List Bytes, left.flatten = body.flatten.drop length ∧
      skipPayload length bound before (.ofChunks body) =
        ⟨.failed (.tooLarge length bound), .ofChunks left,
          [discarded (min length body.flatten.length) length]⟩ := by
  obtain ⟨left, rest, pulled⟩ := Source.pull_ofChunks length body
  refine ⟨left, rest, ?_⟩
  rw [skipPayload, pulled, ← List.length_take]
  by_cases cut : body.flatten.length < length
  · rw [if_pos cut]
    rfl
  · rw [if_neg cut]
    rfl

theorem readPayload_ofChunks (length : Nat) (before : Source) (body : List Bytes) :
    ∃ left : List Bytes, left.flatten = body.flatten.drop length ∧
      readPayload length before (.ofChunks body) =
        ⟨if body.flatten.length < length then .failed .closed
          else .datagram (body.flatten.take length), .ofChunks left, []⟩ := by
  obtain ⟨left, rest, pulled⟩ := Source.pull_ofChunks length body
  refine ⟨left, rest, ?_⟩
  rw [readPayload, pulled]
  by_cases cut : body.flatten.length < length
  · rw [if_pos cut, if_pos cut]
    rfl
  · rw [if_neg cut, if_neg cut]
    rfl

/-! The whole call -/

section

variable (max : Nat) {bytes : Bytes}

theorem account_of_short (short : bytes.length < headerSize) :
    account max bytes = { result := .failed .closed, taken := bytes.length } :=
  if_pos short

theorem account_of_foreign (headed : ¬ bytes.length < headerSize)
    (foreign : bytes.getD 4 0 ≠ version) :
    account max bytes =
      { result := .failed (.protocol (unsupportedVersion (bytes.getD 4 0))), taken := 5 } :=
  (if_neg headed).trans (if_pos foreign)

/-- With its header taken, a call is about what stands behind it. -/
theorem account_of_body (headed : ¬ bytes.length < headerSize)
    (supported : ¬ bytes.getD 4 0 ≠ version) {length : Nat}
    (announces : Bytes.ofBigEndian (bytes.take 4) = length) {body : Bytes}
    (behind : body = bytes.drop headerSize) :
    account max bytes =
      if limit max < length then
        { result := .failed (.tooLarge length (limit max))
          taken := 5 + min body.length length
          notices := [discarded (min body.length length) length] }
      else if body.length < length then { result := .failed .closed, taken := 5 + body.length }
      else { result := .datagram (body.take length), taken := 5 + length } := by
  have size : bytes.length = 5 + body.length := by
    rw [behind, List.length_drop, headerSize]
    rw [headerSize] at headed
    omega
  subst announces behind
  refine (if_neg headed).trans ((if_neg supported).trans ?_)
  simp only [size, Nat.add_min_add_left, Nat.add_sub_cancel_left, Nat.add_lt_add_iff_left]
  rfl

end

theorem read_ofChunks (max : Nat) (chunks : List Bytes) :
    ∃ left : List Bytes,
      left.flatten = chunks.flatten.drop (account max chunks.flatten).taken ∧
        read max (.ofChunks chunks) =
          ⟨(account max chunks.flatten).result, .ofChunks left,
            (account max chunks.flatten).notices⟩ := by
  by_cases short : chunks.flatten.length < headerSize
  · refine ⟨[], ?_, ?_⟩
    · rw [account_of_short max short, List.drop_length]
      rfl
    · rw [account_of_short max short, read_of_short short]
  · obtain ⟨body, flat, unfolded⟩ := read_of_header max ⟨[], false⟩ (Nat.le_of_not_lt short)
      (announced_take chunks.flatten)
    rw [← Source.ofChunks_eq, ← Source.ofChunks_eq] at unfolded
    have behind : ∀ n, chunks.flatten.drop (5 + n) = body.flatten.drop n := by
      intro n
      rw [flat, List.drop_drop, headerSize]
    by_cases foreign : chunks.flatten.getD 4 0 ≠ version
    · rw [unfolded, if_pos foreign, account_of_foreign max short foreign]
      exact ⟨body, flat, rfl⟩
    · rw [unfolded, if_neg foreign, account_of_body max short foreign rfl flat]
      generalize Bytes.ofBigEndian (chunks.flatten.take 4) = length
      by_cases large : limit max < length
      · obtain ⟨left, rest, skipped⟩ :=
          skipPayload_ofChunks length (limit max) (.ofChunks chunks) body
        rw [if_pos large, if_pos large, skipped, Nat.min_comm]
        refine ⟨left, ?_, rfl⟩
        rw [behind, ← List.drop_eq_drop_min, rest]
      · obtain ⟨left, rest, taken⟩ := readPayload_ofChunks length (.ofChunks chunks) body
        rw [if_neg large, if_neg large, taken]
        refine ⟨left, ?_, ?_⟩
        · by_cases cut : body.flatten.length < length
          · rw [if_pos cut, behind, List.drop_length, rest,
              List.drop_of_length_le (Nat.le_of_lt cut)]
          · rw [if_neg cut, behind, rest]
        · by_cases cut : body.flatten.length < length
          · rw [if_pos cut, if_pos cut]
          · rw [if_neg cut, if_neg cut]

/-- A call takes what its account says, neither more nor less, and leaves everything behind that. -/
theorem read_takes (max : Nat) (chunks : List Bytes) :
    (account max chunks.flatten).taken ≤ chunks.flatten.length ∧
      ∃ left : List Bytes,
        left.flatten = chunks.flatten.drop (account max chunks.flatten).taken ∧
          read max (.ofChunks chunks) =
            ⟨(account max chunks.flatten).result, .ofChunks left,
              (account max chunks.flatten).notices⟩ :=
  ⟨taken_account_le max chunks.flatten, read_ofChunks max chunks⟩

end Heartbeat.Frame
