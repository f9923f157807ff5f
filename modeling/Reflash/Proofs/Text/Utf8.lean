import Reflash.Text.Utf8

/-!
# Reading undamaged text

The machine that reads text takes every character from its UTF-8 form and is between characters
again afterwards (`decodeFrom_char`). So a text that was written is read as it is
(`decode_encode`), and replacement characters stand only for what nobody wrote.

A character of more than one byte has a lead byte, which `Opens` it, and continuation bytes of six
bits each. The range that the lead byte leaves to the byte after it is where overlong forms and
surrogates are ruled out, and the bits of a character always lie in this range.
-/

namespace Reflash.Text.Utf8

/-- The characters of a text one after the other. -/
theorem encode_eq_flatMap (text : String) :
    encode text = text.toList.flatMap String.utf8EncodeChar := by
  unfold encode
  conv => lhs; rw [← String.ofList_toList (s := text)]
  rw [String.toUTF8_eq_toByteArray, String.toByteArray_ofList]
  simp [List.utf8Encode]

/-- Bytes are decoded one after the other. -/
theorem decodeFrom_cons (state : State) (byte : UInt8) (rest : Bytes) :
    decodeFrom state (byte :: rest) =
      (step state byte).1 ++ decodeFrom (step state byte).2 rest := rfl

/-- What fits into a byte is kept by it. -/
theorem toNat_byte {n : Nat} (h : n < 256) : (UInt8.ofNat n).toNat = n :=
  UInt8.toNat_ofNat_of_lt' h

/-! ## Continuation bytes -/

/-- The byte that carries the lowest six bits. -/
def continuation (bits : Nat) : UInt8 :=
  UInt8.ofNat (bits % 64 + 0x80)

/-- The value of a continuation byte. -/
theorem toNat_continuation (bits : Nat) : (continuation bits).toNat = bits % 64 + 0x80 :=
  toNat_byte (by omega)

/-- A continuation byte lies in the range of such bytes. -/
theorem continuation_mem (bits : Nat) : 0x80 ≤ continuation bits ∧ continuation bits ≤ 0xBF := by
  simp only [UInt8.le_iff_toNat_le, toNat_continuation, UInt8.reduceToNat]
  omega

section Continued

variable {value owed bits : Nat} {low high : UInt8} {rest : Bytes}

/-- A continuation byte gives its six bits back. -/
theorem bits_continuation (bits : Nat) : (continuation bits).toNat % 64 = bits % 64 := by
  rw [toNat_continuation]
  omega

/-- The last continuation byte completes the character. -/
theorem decodeFrom_last (h : low ≤ continuation bits ∧ continuation bits ≤ high) :
    decodeFrom (.inside value 0 low high) (continuation bits :: rest) =
      Char.ofNat (value * 64 + bits % 64) :: decodeFrom .start rest := by
  have hstep : step (.inside value 0 low high) (continuation bits) =
      ([Char.ofNat (value * 64 + bits % 64)], .start) := by
    simp only [step, if_pos h, bits_continuation]
  rw [decodeFrom_cons, hstep, List.singleton_append]

/-- Any other continuation byte adds its bits. -/
theorem decodeFrom_more (h : low ≤ continuation bits ∧ continuation bits ≤ high) :
    decodeFrom (.inside value (owed + 1) low high) (continuation bits :: rest) =
      decodeFrom (.inside (value * 64 + bits % 64) owed 0x80 0xBF) rest := by
  have hstep : step (.inside value (owed + 1) low high) (continuation bits) =
      ([], .inside (value * 64 + bits % 64) owed 0x80 0xBF) := by
    simp only [step, if_pos h, bits_continuation]
  rw [decodeFrom_cons, hstep, List.nil_append]

end Continued

/-! ## Lead bytes -/

/-- The lead byte opens a character: it leaves the bits `value`, and after it `owed + 1` continuation
bytes are missing, of which `next` is a possible first one. -/
def Opens (lead : UInt8) (value owed : Nat) (next : UInt8) : Prop :=
  ∃ low high, enter lead = ([], .inside value owed low high) ∧ low ≤ next ∧ next ≤ high

/-- Behind a lead byte, decoding goes on inside the character that it opens. -/
theorem Opens.decodeFrom_eq {lead next : UInt8} {value owed : Nat}
    (h : Opens lead value owed next) :
    ∃ low high, (low ≤ next ∧ next ≤ high) ∧ ∀ rest,
      decodeFrom .start (lead :: rest) = decodeFrom (.inside value owed low high) rest := by
  obtain ⟨low, high, henter, hrange⟩ := h
  refine ⟨low, high, hrange, fun rest => ?_⟩
  have hstep : step .start lead = ([], .inside value owed low high) := henter
  rw [decodeFrom_cons, hstep, List.nil_append]

/-- What a byte gives between characters, going by its value. -/
theorem enter_eq (byte : UInt8) :
    enter byte =
      if byte.toNat < 0x80 then ([Char.ofNat byte.toNat], .start)
      else if byte.toNat < 0xC2 then ([replacement], .start)
      else if byte.toNat < 0xE0 then ([], .inside (byte.toNat % 32) 0 0x80 0xBF)
      else if byte.toNat = 0xE0 then ([], .inside 0 1 0xA0 0xBF)
      else if byte.toNat = 0xED then ([], .inside 13 1 0x80 0x9F)
      else if byte.toNat < 0xF0 then ([], .inside (byte.toNat % 16) 1 0x80 0xBF)
      else if byte.toNat = 0xF0 then ([], .inside 0 2 0x90 0xBF)
      else if byte.toNat < 0xF4 then ([], .inside (byte.toNat % 8) 2 0x80 0xBF)
      else if byte.toNat = 0xF4 then ([], .inside 4 2 0x80 0x8F)
      else ([replacement], .start) := by
  unfold enter
  simp only [UInt8.lt_iff_toNat_lt, ← UInt8.toNat_inj, UInt8.reduceToNat]

section Lead

variable {v : Nat}

/-- A byte below the lead bytes is a character of its own. -/
theorem enter_one (h : v ≤ 0x7F) : enter (UInt8.ofNat v) = ([Char.ofNat v], .start) := by
  have hlead : (UInt8.ofNat v).toNat = v := toNat_byte (by omega)
  rw [enter_eq, hlead, if_pos (by omega)]

/-- The first of two bytes opens a character that one continuation byte completes. -/
theorem opens_two (hlow : 0x7F < v) (hhigh : v ≤ 0x7FF) :
    Opens (UInt8.ofNat (v / 64 % 0x20 + 0xC0)) (v / 64) 0 (continuation v) := by
  have hlead : (UInt8.ofNat (v / 64 % 0x20 + 0xC0)).toNat = v / 64 + 0xC0 := by
    rw [toNat_byte (by omega)]
    omega
  refine ⟨0x80, 0xBF, ?_, continuation_mem v⟩
  have hvalue : (v / 64 + 0xC0) % 32 = v / 64 := by omega
  rw [enter_eq, hlead, if_neg (by omega), if_neg (by omega), if_pos (by omega), hvalue]

/-- Of three bytes, the second is bounded below to rule out overlong forms, and above to rule out
surrogates. -/
theorem opens_three (hlow : 0x7FF < v) (hhigh : v ≤ 0xFFFF) (hvalid : v.isValidChar) :
    Opens (UInt8.ofNat (v / 4096 % 0x10 + 0xE0)) (v / 4096) 1 (continuation (v / 64)) := by
  have hlead : (UInt8.ofNat (v / 4096 % 0x10 + 0xE0)).toNat = v / 4096 + 0xE0 := by
    rw [toNat_byte (by omega)]
    omega
  have hnext := toNat_continuation (v / 64)
  unfold Nat.isValidChar at hvalid
  unfold Opens
  rw [enter_eq, hlead, if_neg (by omega), if_neg (by omega), if_neg (by omega)]
  simp only [UInt8.le_iff_toNat_le, hnext]
  by_cases hfirst : v / 4096 = 0
  · refine ⟨0xA0, 0xBF, ?_, ?_⟩
    · rw [if_pos (by omega), hfirst]
    · simp only [UInt8.reduceToNat]
      omega
  by_cases hsurrogates : v / 4096 = 13
  · refine ⟨0x80, 0x9F, ?_, ?_⟩
    · rw [if_neg (by omega), if_pos (by omega), hsurrogates]
    · simp only [UInt8.reduceToNat]
      omega
  · refine ⟨0x80, 0xBF, ?_, ?_⟩
    · have hvalue : (v / 4096 + 0xE0) % 16 = v / 4096 := by omega
      rw [if_neg (by omega), if_neg (by omega), if_pos (by omega), hvalue]
    · simp only [UInt8.reduceToNat]
      omega

/-- Of four bytes, the second is bounded below to rule out overlong forms, and above to rule out
values beyond the last character. -/
theorem opens_four (hlow : 0xFFFF < v) (hvalid : v.isValidChar) :
    Opens (UInt8.ofNat (v / 262144 % 0x08 + 0xF0)) (v / 262144) 2 (continuation (v / 4096)) := by
  have hhigh : v < 0x110000 := by
    unfold Nat.isValidChar at hvalid
    omega
  have hlead : (UInt8.ofNat (v / 262144 % 0x08 + 0xF0)).toNat = v / 262144 + 0xF0 := by
    rw [toNat_byte (by omega)]
    omega
  have hnext := toNat_continuation (v / 4096)
  unfold Opens
  rw [enter_eq, hlead, if_neg (by omega), if_neg (by omega), if_neg (by omega), if_neg (by omega),
    if_neg (by omega), if_neg (by omega)]
  simp only [UInt8.le_iff_toNat_le, hnext]
  -- only the first and the last of these leads narrow the range of the second byte
  by_cases hfirst : v / 262144 = 0
  · refine ⟨0x90, 0xBF, ?_, ?_⟩
    · rw [if_pos (by omega), hfirst]
    · simp only [UInt8.reduceToNat]
      omega
  by_cases hlast : v / 262144 = 4
  · refine ⟨0x80, 0x8F, ?_, ?_⟩
    · rw [if_neg (by omega), if_neg (by omega), if_pos (by omega), hlast]
    · simp only [UInt8.reduceToNat]
      omega
  · refine ⟨0x80, 0xBF, ?_, ?_⟩
    · have hvalue : (v / 262144 + 0xF0) % 8 = v / 262144 := by omega
      rw [if_neg (by omega), if_pos (by omega), hvalue]
    · simp only [UInt8.reduceToNat]
      omega

end Lead

/-! ## Characters and texts -/

/-- A character is read from its bytes, and what is behind them is read after it. -/
theorem decodeFrom_char (c : Char) (rest : Bytes) :
    decodeFrom .start (String.utf8EncodeChar c ++ rest) = c :: decodeFrom .start rest := by
  have hchar : Char.ofNat c.val.toNat = c := Char.ofNat_toNat c
  have hvalid : c.val.toNat.isValidChar := c.valid
  fun_cases String.utf8EncodeChar c with
  | case1 v h =>
      have hstep : step .start (UInt8.ofNat v) = ([c], .start) := by
        show enter _ = _
        rw [enter_one h, hchar]
      rw [List.singleton_append, decodeFrom_cons, hstep, List.singleton_append]
  | case2 v hone h =>
      obtain ⟨low, high, hrange, hlead⟩ := (opens_two (Nat.lt_of_not_le hone) h).decodeFrom_eq
      -- what lead and continuation carry is put together again
      have hbits : v / 64 * 64 + v % 64 = v := by omega
      show decodeFrom .start (_ :: continuation v :: rest) = _
      rw [hlead, decodeFrom_last hrange, hbits, hchar]
  | case3 v hone htwo h =>
      obtain ⟨low, high, hrange, hlead⟩ :=
        (opens_three (Nat.lt_of_not_le htwo) h hvalid).decodeFrom_eq
      have hbits : (v / 4096 * 64 + v / 64 % 64) * 64 + v % 64 = v := by omega
      show decodeFrom .start (_ :: continuation (v / 64) :: continuation v :: rest) = _
      rw [hlead, decodeFrom_more hrange, decodeFrom_last (continuation_mem v), hbits, hchar]
  | case4 v hone htwo hthree =>
      obtain ⟨low, high, hrange, hlead⟩ :=
        (opens_four (Nat.lt_of_not_le hthree) hvalid).decodeFrom_eq
      have hbits : ((v / 262144 * 64 + v / 4096 % 64) * 64 + v / 64 % 64) * 64 + v % 64 = v := by
        omega
      show decodeFrom .start
        (_ :: continuation (v / 4096) :: continuation (v / 64) :: continuation v :: rest) = _
      rw [hlead, decodeFrom_more hrange, decodeFrom_more (continuation_mem _),
        decodeFrom_last (continuation_mem v), hbits, hchar]

/-- Characters are read one by one. -/
theorem decodeFrom_flatMap (chars : List Char) :
    decodeFrom .start (chars.flatMap String.utf8EncodeChar) = chars := by
  induction chars with
  | nil => rfl
  | cons c rest ih => rw [List.flatMap_cons, decodeFrom_char, ih]

/-- A text that was written is read as it is. -/
theorem decode_encode (text : String) : decode (encode text) = text := by
  unfold decode
  rw [encode_eq_flatMap, decodeFrom_flatMap, String.ofList_toList]

/-- A byte made of a number between zero and 256 is not the terminator. -/
theorem zero_ne_byte {n : Nat} (hpos : 0 < n) (hn : n < 256) : 0 ≠ UInt8.ofNat n := by
  intro h
  rw [← toNat_byte hn, ← h] at hpos
  exact Nat.lt_irrefl 0 hpos

/-- Only the zero character has a zero byte in its form: lead bytes and continuation bytes have
their highest bit set. -/
theorem zero_not_mem_utf8EncodeChar {c : Char} (h : c ≠ '\x00') :
    (0 : UInt8) ∉ String.utf8EncodeChar c := by
  have hpos : 0 < c.val.toNat := by
    refine Nat.pos_of_ne_zero fun hzero => h ?_
    rw [← Char.ofNat_toNat c]
    exact congrArg Char.ofNat hzero
  fun_cases String.utf8EncodeChar c with
  | case1 v hone =>
      rw [List.mem_singleton]
      exact zero_ne_byte hpos (by omega)
  | case2 | case3 | case4 =>
      simp (disch := omega) only [List.mem_cons, List.not_mem_nil, zero_ne_byte,
        or_self, not_false_eq_true]

/-- A text without the zero character has no zero byte in its form. -/
theorem zero_not_mem_encode {text : String} (h : '\x00' ∉ text.toList) : 0 ∉ encode text := by
  intro hmem
  rw [encode_eq_flatMap, List.mem_flatMap] at hmem
  obtain ⟨c, hc, hbyte⟩ := hmem
  exact zero_not_mem_utf8EncodeChar (fun hzero => h (hzero ▸ hc)) hbyte

end Reflash.Text.Utf8
