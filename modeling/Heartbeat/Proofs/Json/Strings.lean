import Heartbeat.Proofs.Json.Grammar
import Heartbeat.Proofs.Text.Utf8

/-!
The readers of strings follow the grammar: they take exactly the texts it allows, and a string
that is kept says what its text spells. A string that is printed is read back.
-/

namespace Heartbeat.Json

theorem isLowSurrogate_of_isHighSurrogate {n : Nat} (high : isHighSurrogate n = true) :
    isLowSurrogate n = false := by
  simp only [isLowSurrogate, isHighSurrogate, Bool.and_eq_true, decide_eq_true_eq,
    Bool.and_eq_false_iff, decide_eq_false_iff_not] at high ⊢
  omega

theorem ne_of_isPlain {b : UInt8} (plain : isPlain b = true) :
    ¬ b < 0x20 ∧ b ≠ 0x22 ∧ b ≠ 0x5C := by
  simp only [isPlain, Bool.and_eq_true, decide_eq_true_eq, bne_iff_ne] at plain
  exact ⟨UInt8.not_lt.mpr plain.1.1, plain.1.2, plain.2⟩

theorem isPlain_of_ne {b : UInt8} (notControl : ¬ b < 0x20) (notQuote : b ≠ 0x22)
    (notBackslash : b ≠ 0x5C) : isPlain b = true := by
  simp only [isPlain, Bool.and_eq_true, decide_eq_true_eq, bne_iff_ne]
  exact ⟨⟨UInt8.not_lt.mp notControl, notQuote⟩, notBackslash⟩

theorem ne_of_simpleEscape? {b c : UInt8} (simple : simpleEscape? b = some c) : b ≠ 0x75 := by
  rintro rfl
  exact absurd simple.symm (Option.some_ne_none c)

theorem exists_cons_of_quoted (text rest : Bytes) :
    ∃ next after, text ++ 0x22 :: rest = next :: after :=
  List.exists_cons_of_ne_nil (List.append_ne_nil_of_right_ne_nil text (List.cons_ne_nil 0x22 rest))

/-! Strings that nobody keeps -/

theorem skipString_of_isBody (body : IsBody text) (rest : Bytes) :
    skipString (text ++ 0x22 :: rest) = .ok rest := by
  induction body with
  | nil => rw [List.nil_append, skipString]
  | plain plain _ ih =>
      obtain ⟨notControl, notQuote, notBackslash⟩ := ne_of_isPlain plain
      rw [List.cons_append, skipString]
      · rw [if_neg notControl, ih]
      all_goals intros; contradiction
  | escape simple _ ih =>
      have notUnit := ne_of_simpleEscape? simple
      rw [List.cons_append, List.cons_append, skipString]
      · simp only [simple]
        exact ih
      all_goals intros; contradiction
  | unit hex _ ih =>
      simp only [List.cons_append, skipString, hex]
      exact ih

theorem isBody_of_skipString {bytes rest : Bytes} (skipped : skipString bytes = .ok rest) :
    ∃ text, IsBody text ∧ bytes = text ++ 0x22 :: rest := by
  fun_induction skipString bytes
  all_goals try (cases skipped; done)
  case case2 =>
      cases skipped
      exact ⟨[], .nil, rfl⟩
  case case4 a b c d more n hex ih =>
      obtain ⟨text, body, rfl⟩ := ih skipped
      exact ⟨_, .unit hex body, rfl⟩
  case case7 b more notUnit notUnit' c simple ih =>
      obtain ⟨text, body, rfl⟩ := ih skipped
      exact ⟨_, .escape simple body, rfl⟩
  case case10 b more notQuote _ _ notEscape notLast notControl ih =>
      obtain ⟨text, body, rfl⟩ := ih skipped
      obtain ⟨next, after, same⟩ := exists_cons_of_quoted text rest
      refine ⟨b :: text, .plain (isPlain_of_ne notControl notQuote ?_) body, rfl⟩
      exact fun backslash => notEscape next after backslash same

/-- A string is told from what follows it. -/
theorem eq_of_isString_append {text text' rest rest' : Bytes} (string : IsString text)
    (string' : IsString text') (same : text ++ rest = text' ++ rest') :
    text = text' ∧ rest = rest' := by
  obtain ⟨body, isBody, rfl⟩ := string
  obtain ⟨body', isBody', rfl⟩ := string'
  have inside : body ++ 0x22 :: rest = body' ++ 0x22 :: rest' := by
    rw [quoted_append, quoted_append] at same
    exact List.tail_eq_of_cons_eq same
  have skipped := skipString_of_isBody isBody rest
  rw [inside, skipString_of_isBody isBody' rest'] at skipped
  cases skipped
  rw [List.append_cancel_right inside]
  exact ⟨rfl, rfl⟩

/-! Strings that are kept -/

theorem scanString_of_spells (spells : Spells text said) (read rest : Bytes) :
    scanString read (text ++ 0x22 :: rest) = .ok (read.reverse ++ said, rest) := by
  induction spells generalizing read with
  | nil => rw [List.nil_append, scanString, List.append_nil]
  | plain plain _ ih =>
      obtain ⟨notControl, notQuote, notBackslash⟩ := ne_of_isPlain plain
      rw [List.cons_append, scanString]
      · rw [if_neg notControl, ih, List.reverse_cons, List.append_assoc, List.singleton_append]
      all_goals intros; contradiction
  | escape simple _ ih =>
      have notUnit := ne_of_simpleEscape? simple
      rw [List.cons_append, List.cons_append, scanString]
      · simp only [simple]
        rw [ih, List.reverse_cons, List.append_assoc, List.singleton_append]
      all_goals intros; contradiction
  | unit hex notLow notHigh _ ih =>
      simp only [List.cons_append, scanString, hex, notLow, notHigh]
      rw [if_neg Bool.false_ne_true, if_neg Bool.false_ne_true, ih, List.reverse_append,
        List.reverse_reverse, List.append_assoc]
  | pair hex high hex' low _ ih =>
      have notLow := isLowSurrogate_of_isHighSurrogate high
      simp only [List.cons_append, scanString, hex, hex', high, low, notLow]
      rw [if_neg Bool.false_ne_true, if_pos trivial, if_pos trivial, ih, List.reverse_append,
        List.reverse_reverse, List.append_assoc]

theorem spells_of_scanString {read bytes raw rest : Bytes}
    (scanned : scanString read bytes = .ok (raw, rest)) :
    ∃ text said, Spells text said ∧ raw = read.reverse ++ said ∧ bytes = text ++ 0x22 :: rest := by
  fun_induction scanString read bytes
  all_goals try (cases scanned; done)
  case case2 =>
      cases scanned
      exact ⟨[], [], .nil, (List.append_nil _).symm, rfl⟩
  case case6 read a b c d high hex notLow isHigh a' b' c' d' more low hex' isLow ih =>
      obtain ⟨text, said, spells, whole, rfl⟩ := ih scanned
      refine ⟨_, _, .pair hex isHigh hex' isLow spells, ?_, rfl⟩
      rw [whole, List.reverse_append, List.reverse_reverse, List.append_assoc]
  case case13 read a b c d more n hex notLow notHigh ih =>
      obtain ⟨text, said, spells, rfl, rfl⟩ := ih scanned
      refine ⟨_, _, .unit hex (eq_false_of_ne_true notLow) (eq_false_of_ne_true notHigh) spells,
        ?_, rfl⟩
      rw [List.reverse_append, List.reverse_reverse, List.append_assoc]
  case case16 read b more notUnit notUnit' c simple ih =>
      obtain ⟨text, said, spells, rfl, rfl⟩ := ih scanned
      refine ⟨_, _, .escape simple spells, ?_, rfl⟩
      rw [List.reverse_cons, List.append_assoc, List.singleton_append]
  case case19 read b more notQuote _ _ notEscape notLast notControl ih =>
      obtain ⟨text, said, spells, rfl, rfl⟩ := ih scanned
      obtain ⟨next, after, same⟩ := exists_cons_of_quoted text rest
      have notBackslash : b ≠ 0x5C := fun backslash => notEscape next after backslash same
      refine ⟨_, _, .plain (isPlain_of_ne notControl notQuote notBackslash) spells, ?_, rfl⟩
      rw [List.reverse_cons, List.append_assoc, List.singleton_append]

theorem Spells.unique (spells : Spells text said) (spells' : Spells text said') :
    said = said' := by
  have scanned := scanString_of_spells spells [] []
  rw [scanString_of_spells spells' [] []] at scanned
  exact (Prod.mk.inj (Except.ok.inj scanned)).1.symm

theorem readString_of_spells {said : String} (spells : Spells text (Utf8.encode said))
    (rest : Bytes) : readString (text ++ 0x22 :: rest) = .ok (said, rest) := by
  simp only [readString, scanString_of_spells spells, bind, Except.bind, List.reverse_nil,
    List.nil_append, Utf8.scan_encode, String.ofList_toList]

theorem spells_of_readString {said : String} {bytes rest : Bytes}
    (read : readString bytes = .ok (said, rest)) :
    ∃ text, Spells text (Utf8.encode said) ∧ bytes = text ++ 0x22 :: rest := by
  simp only [readString, bind, Except.bind] at read
  cases scanned : scanString [] bytes with
  | error fault =>
      rw [scanned] at read
      cases read
  | ok outcome =>
      obtain ⟨raw, rest'⟩ := outcome
      simp only [scanned] at read
      obtain ⟨text, said', spells, rfl, rfl⟩ := spells_of_scanString scanned
      split at read
      · rename_i chars whole
        cases read
        rw [← Utf8.eq_encode_of_scan whole]
        exact ⟨text, spells, rfl⟩
      · cases read

theorem Writes.unique (writes : Writes said text) (writes' : Writes said' text) :
    said = said' := by
  obtain ⟨body, spells, rfl⟩ := writes
  obtain ⟨body', spells', same⟩ := writes'
  rw [List.append_cancel_right (List.tail_eq_of_cons_eq same)] at spells
  exact Utf8.encode_injective (spells.unique spells')

/-! Printing -/

theorem hexUnit?_hexLetter {n : Nat} (small : n < 0x20) :
    hexUnit? 0x30 0x30 (hexLetter (n / 16)) (hexLetter (n % 16)) = some n := by
  have all : ∀ n < 0x20,
      hexUnit? 0x30 0x30 (hexLetter (n / 16)) (hexLetter (n % 16)) = some n := by decide
  exact all n small

theorem encodeChar_of_control {b : UInt8} (control : b < 0x20) :
    Utf8.encodeChar (Char.ofNat b.toNat) = [b] := by
  have small : b.toNat < 0x20 := control
  have value : (Char.ofNat b.toNat).toNat = b.toNat := Utf8.toNat_ofNat (.inl (by omega))
  rw [Utf8.encodeChar, value, if_pos (by omega), Utf8.toUInt8_eq rfl]

theorem spells_escapeByte (spells : Spells text said) (b : UInt8) :
    Spells (escapeByte b ++ text) (b :: said) := by
  unfold escapeByte
  split
  case h_8 notQuote notBackslash _ _ _ _ _ =>
      split
      · rename_i control
        have small : b.toNat < 0x20 := control
        have unit := Spells.unit (hexUnit?_hexLetter small)
          (by rw [isLowSurrogate, decide_eq_false (by omega)]; rfl)
          (by rw [isHighSurrogate, decide_eq_false (by omega)]; rfl) spells
        rw [encodeChar_of_control control] at unit
        exact unit
      · rename_i notControl
        exact .plain (isPlain_of_ne notControl notQuote notBackslash) spells
  all_goals exact .escape rfl spells

theorem spells_escape (bytes : Bytes) : Spells (bytes.flatMap escapeByte) bytes := by
  induction bytes with
  | nil => exact .nil
  | cons b bytes ih => exact spells_escapeByte ih b

theorem writes_renderString (text : String) : Writes text (renderString text) :=
  ⟨_, spells_escape _, rfl⟩

theorem readString_renderString (text : String) (rest : Bytes) :
    ∃ body, renderString text ++ rest = 0x22 :: body ∧ readString body = .ok (text, rest) := by
  refine ⟨_, quoted_append _ rest, ?_⟩
  exact readString_of_spells (spells_escape _) rest

end Heartbeat.Json
