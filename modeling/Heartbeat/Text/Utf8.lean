import Heartbeat.Bytes

/-!
UTF-8 as Unicode defines it: shortest forms only, no surrogates, nothing above U+10FFFF.
`scan` splits off the longest well-formed head, so the first bad byte is where its rest begins.
-/

namespace Heartbeat.Utf8

def encodeChar (c : Char) : Bytes :=
  let n := c.toNat
  if n < 0x80 then [n.toUInt8]
  else if n < 0x800 then [(0xC0 + n / 64).toUInt8, (0x80 + n % 64).toUInt8]
  else if n < 0x10000 then
    [(0xE0 + n / 4096).toUInt8, (0x80 + n / 64 % 64).toUInt8, (0x80 + n % 64).toUInt8]
  else
    [(0xF0 + n / 262144).toUInt8, (0x80 + n / 4096 % 64).toUInt8,
      (0x80 + n / 64 % 64).toUInt8, (0x80 + n % 64).toUInt8]

def encode (text : String) : Bytes :=
  text.toList.flatMap encodeChar

/-- The six payload bits of a continuation byte. -/
def continuation? (b : UInt8) : Option Nat :=
  if 0x80 ≤ b.toNat ∧ b.toNat < 0xC0 then some (b.toNat - 0x80) else none

/-- A character of at least `least`, the smallest code point that needs this many bytes. -/
def charAtLeast? (least n : Nat) : Option Char :=
  if least ≤ n ∧ n.isValidChar then some (Char.ofNat n) else none

def decodeChar? : Bytes → Option (Char × Bytes)
  | [] => none
  | b :: rest =>
      if b.toNat < 0x80 then some (Char.ofNat b.toNat, rest)
      else if b.toNat < 0xC0 then none
      else if b.toNat < 0xE0 then
        match rest with
        | b₁ :: rest => do
            let x ← continuation? b₁
            let c ← charAtLeast? 0x80 ((b.toNat - 0xC0) * 64 + x)
            pure (c, rest)
        | _ => none
      else if b.toNat < 0xF0 then
        match rest with
        | b₁ :: b₂ :: rest => do
            let x ← continuation? b₁
            let y ← continuation? b₂
            let c ← charAtLeast? 0x800 ((b.toNat - 0xE0) * 4096 + x * 64 + y)
            pure (c, rest)
        | _ => none
      else if b.toNat < 0xF8 then
        match rest with
        | b₁ :: b₂ :: b₃ :: rest => do
            let x ← continuation? b₁
            let y ← continuation? b₂
            let z ← continuation? b₃
            let c ← charAtLeast? 0x10000 ((b.toNat - 0xF0) * 262144 + x * 4096 + y * 64 + z)
            pure (c, rest)
        | _ => none
      else none

theorem length_lt_of_decodeChar? (h : decodeChar? bytes = some (c, rest)) :
    rest.length < bytes.length := by
  unfold decodeChar? at h
  repeat' split at h
  all_goals
    simp only [Option.pure_def, Option.bind_eq_bind, Option.bind_eq_some_iff, Option.some.injEq,
      Prod.mk.injEq, reduceCtorEq] at h
  · obtain ⟨_, rfl⟩ := h
    exact Nat.lt_succ_self _
  · obtain ⟨_, _, _, _, _, rfl⟩ := h
    simp only [List.length_cons]
    omega
  · obtain ⟨_, _, _, _, _, _, _, rfl⟩ := h
    simp only [List.length_cons]
    omega
  · obtain ⟨_, _, _, _, _, _, _, _, _, rfl⟩ := h
    simp only [List.length_cons]
    omega

def scanFrom (read : List Char) (bytes : Bytes) : List Char × Bytes :=
  match _h : decodeChar? bytes with
  | none => (read.reverse, bytes)
  | some (c, rest) => scanFrom (c :: read) rest
termination_by bytes.length
decreasing_by exact length_lt_of_decodeChar? _h

/-- The longest well-formed head as characters, and the bytes after it. -/
def scan (bytes : Bytes) : List Char × Bytes :=
  scanFrom [] bytes

def decode? (bytes : Bytes) : Option String :=
  match scan bytes with
  | (text, []) => some (String.ofList text)
  | _ => none

end Heartbeat.Utf8
