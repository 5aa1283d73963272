import Heartbeat.Text.Utf8

/-!
What is encoded as UTF-8 is read back: one character at a time, and so the whole text. Nothing
else is read as UTF-8.
-/

namespace Heartbeat.Utf8

theorem toNat_toUInt8 {n : Nat} (small : n < 256) : n.toUInt8.toNat = n := by
  rw [Nat.toUInt8, UInt8.toNat_ofNat']
  exact Nat.mod_eq_of_lt small

theorem continuation?_of_lt {n : Nat} (small : n < 64) :
    continuation? (0x80 + n).toUInt8 = some n := by
  rw [continuation?, toNat_toUInt8 (by omega), if_pos (by omega), Nat.add_sub_cancel_left]

theorem charAtLeast?_toNat {least : Nat} {c : Char} (enough : least ≤ c.toNat) :
    charAtLeast? least c.toNat = some c := by
  rw [charAtLeast?, if_pos ⟨enough, c.valid⟩, Char.ofNat_toNat]

theorem decodeChar?_encodeChar (c : Char) (rest : Bytes) :
    decodeChar? (encodeChar c ++ rest) = some (c, rest) := by
  have bound : c.toNat < 0x110000 := by
    rcases c.valid with low | ⟨-, high⟩
    · exact Nat.lt_trans low (by decide)
    · exact high
  unfold encodeChar
  simp only
  split
  · rename_i one
    simp only [List.singleton_append, decodeChar?]
    rw [toNat_toUInt8 (by omega), if_pos one, Char.ofNat_toNat]
  · split
    · rename_i least two
      simp only [List.cons_append, List.nil_append, decodeChar?]
      rw [toNat_toUInt8 (by omega), if_neg (by omega), if_neg (by omega), if_pos (by omega),
        continuation?_of_lt (by omega)]
      simp only [Option.bind_eq_bind, Option.bind_some]
      rw [show (0xC0 + c.toNat / 64 - 0xC0) * 64 + c.toNat % 64 = c.toNat by omega,
        charAtLeast?_toNat (by omega)]
      rfl
    · split
      · rename_i least three
        simp only [List.cons_append, List.nil_append, decodeChar?]
        rw [toNat_toUInt8 (by omega), if_neg (by omega), if_neg (by omega), if_neg (by omega),
          if_pos (by omega), continuation?_of_lt (by omega), continuation?_of_lt (by omega)]
        simp only [Option.bind_eq_bind, Option.bind_some]
        rw [show (0xE0 + c.toNat / 4096 - 0xE0) * 4096 + c.toNat / 64 % 64 * 64 + c.toNat % 64
            = c.toNat by omega, charAtLeast?_toNat (by omega)]
        rfl
      · rename_i least
        simp only [List.cons_append, List.nil_append, decodeChar?]
        rw [toNat_toUInt8 (by omega), if_neg (by omega), if_neg (by omega), if_neg (by omega),
          if_neg (by omega), if_pos (by omega), continuation?_of_lt (by omega),
          continuation?_of_lt (by omega), continuation?_of_lt (by omega)]
        rw [Option.bind_eq_bind, Option.bind_some, Option.bind_some, Option.bind_some]
        rw [show (0xF0 + c.toNat / 262144 - 0xF0) * 262144 + c.toNat / 4096 % 64 * 4096
            + c.toNat / 64 % 64 * 64 + c.toNat % 64 = c.toNat by omega,
          charAtLeast?_toNat (by omega)]
        rfl

theorem scanFrom_encode (read text : List Char) :
    scanFrom read (text.flatMap encodeChar) = (read.reverse ++ text, []) := by
  induction text generalizing read with
  | nil =>
      rw [List.flatMap_nil, scanFrom]
      split
      · rw [List.append_nil]
      · rename_i c rest taken
        exact absurd taken.symm (Option.some_ne_none _)
  | cons c text ih =>
      rw [List.flatMap_cons, scanFrom]
      split
      · rename_i stuck
        rw [decodeChar?_encodeChar] at stuck
        exact absurd stuck (Option.some_ne_none _)
      · rename_i c' rest taken
        rw [decodeChar?_encodeChar] at taken
        cases taken
        rw [ih, List.reverse_cons, List.append_assoc, List.singleton_append]

theorem scan_encode (text : String) : scan (encode text) = (text.toList, []) :=
  scanFrom_encode [] text.toList

theorem toUInt8_eq {n : Nat} {b : UInt8} (same : n = b.toNat) : n.toUInt8 = b := by
  rw [same]
  exact UInt8.ofNat_toNat

theorem toNat_ofNat {n : Nat} (valid : n.isValidChar) : (Char.ofNat n).toNat = n := by
  rw [Char.ofNat, dif_pos valid]
  exact UInt32.toNat_ofNatLT

theorem continuation?_eq_some (payload : continuation? b = some x) :
    b.toNat = 0x80 + x ∧ x < 64 := by
  unfold continuation? at payload
  split at payload
  · have same := Option.some.inj payload
    omega
  · exact absurd payload.symm (Option.some_ne_none x)

theorem charAtLeast?_eq_some (found : charAtLeast? least n = some c) :
    c.toNat = n ∧ least ≤ n := by
  unfold charAtLeast? at found
  split at found
  · rename_i fits
    rw [← Option.some.inj found]
    exact ⟨toNat_ofNat fits.2, fits.1⟩
  · exact absurd found.symm (Option.some_ne_none c)

theorem eq_of_decodeChar? (decoded : decodeChar? bytes = some (c, rest)) :
    bytes = encodeChar c ++ rest := by
  unfold decodeChar? at decoded
  repeat' split at decoded
  all_goals
    simp only [Option.pure_def, Option.bind_eq_bind, Option.bind_eq_some_iff, Option.some.injEq,
      Prod.mk.injEq, reduceCtorEq] at decoded
  · rename_i b bytes' one
    obtain ⟨rfl, rfl⟩ := decoded
    have value : (Char.ofNat b.toNat).toNat = b.toNat :=
      toNat_ofNat (.inl (by omega))
    rw [encodeChar, value, if_pos one, toUInt8_eq rfl]
    rfl
  · rename_i b _ _ _ two b₁ rest'
    obtain ⟨x, payload, c', found, rfl, rfl⟩ := decoded
    obtain ⟨first, small⟩ := continuation?_eq_some payload
    obtain ⟨value, least⟩ := charAtLeast?_eq_some found
    rw [encodeChar, value, if_neg (by omega), if_pos (by omega), toUInt8_eq (b := b) (by omega),
      toUInt8_eq (b := b₁) (by omega)]
    rfl
  · rename_i b _ _ _ _ three b₁ b₂ rest'
    obtain ⟨x, payload, y, payload', c', found, rfl, rfl⟩ := decoded
    obtain ⟨first, small⟩ := continuation?_eq_some payload
    obtain ⟨second, small'⟩ := continuation?_eq_some payload'
    obtain ⟨value, least⟩ := charAtLeast?_eq_some found
    rw [encodeChar, value, if_neg (by omega), if_neg (by omega), if_pos (by omega),
      toUInt8_eq (b := b) (by omega), toUInt8_eq (b := b₁) (by omega),
      toUInt8_eq (b := b₂) (by omega)]
    rfl
  · rename_i b _ _ _ _ _ four b₁ b₂ b₃ rest'
    obtain ⟨x, payload, y, payload', z, payload'', c', found, rfl, rfl⟩ := decoded
    obtain ⟨first, small⟩ := continuation?_eq_some payload
    obtain ⟨second, small'⟩ := continuation?_eq_some payload'
    obtain ⟨third, small''⟩ := continuation?_eq_some payload''
    obtain ⟨value, least⟩ := charAtLeast?_eq_some found
    rw [encodeChar, value, if_neg (by omega), if_neg (by omega), if_neg (by omega),
      toUInt8_eq (b := b) (by omega), toUInt8_eq (b := b₁) (by omega),
      toUInt8_eq (b := b₂) (by omega), toUInt8_eq (b := b₃) (by omega)]
    rfl

theorem eq_of_scanFrom {read text : List Char} {bytes rest : Bytes}
    (scanned : scanFrom read bytes = (text, rest)) :
    ∃ more, text = read.reverse ++ more ∧ bytes = more.flatMap encodeChar ++ rest := by
  fun_induction scanFrom read bytes with
  | case1 read bytes stuck =>
      cases scanned
      exact ⟨[], (List.append_nil _).symm, rfl⟩
  | case2 read bytes c bytes' decoded ih =>
      obtain ⟨more, rfl, rfl⟩ := ih scanned
      refine ⟨c :: more, ?_, ?_⟩
      · rw [List.reverse_cons, List.append_assoc, List.singleton_append]
      · rw [eq_of_decodeChar? decoded, List.flatMap_cons, List.append_assoc]

theorem eq_encode_of_scan {text : List Char} {bytes : Bytes} (scanned : scan bytes = (text, [])) :
    bytes = encode (String.ofList text) := by
  obtain ⟨more, same, rfl⟩ := eq_of_scanFrom scanned
  rw [List.reverse_nil, List.nil_append] at same
  rw [List.append_nil, encode, String.toList_ofList, same]

theorem encode_injective {text text' : String} (same : encode text = encode text') :
    text = text' := by
  have scanned := scan_encode text
  rw [same, scan_encode] at scanned
  exact String.toList_injective (Prod.mk.inj scanned).1.symm

theorem decode?_encode (text : String) : decode? (encode text) = some text := by
  rw [decode?, scan_encode]
  exact congrArg some (String.ofList_toList)

theorem decode?_eq_some_iff {bytes : Bytes} {text : String} :
    decode? bytes = some text ↔ bytes = encode text := by
  constructor
  · intro decoded
    unfold decode? at decoded
    split at decoded
    · rename_i scanned
      cases decoded
      exact eq_encode_of_scan scanned
    · cases decoded
  · rintro rfl
    exact decode?_encode text

end Heartbeat.Utf8
