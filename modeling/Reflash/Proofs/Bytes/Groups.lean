import Reflash.Proofs.Bytes.Words

/-!
# Groups of four bytes

A byte string seen four bytes at a time: `group` is the little-endian word at offset `4 * i`, in
which missing bytes count as zero. Byte strings of one length with the same groups are equal
(`eq_of_group_eq`); bytes that agree outside one group have the same other groups
(`AgreeOutside.group_eq`); and flipping one bit of a byte string flips one bit of one group
(`group_flipBit`).
-/

namespace Reflash.Bytes

/-- The byte at an offset, and zero behind the end. -/
def byteAt (bytes : Bytes) (offset : Nat) : UInt8 :=
  bytes[offset]?.getD 0

/-- Group number `i` as a word. -/
def group (bytes : Bytes) (i : Nat) : UInt32 :=
  word32 (bytes.byteAt (4 * i)) (bytes.byteAt (4 * i + 1)) (bytes.byteAt (4 * i + 2))
    (bytes.byteAt (4 * i + 3))

/-- The number of groups, the last of which may be incomplete. -/
def groupCount (bytes : Bytes) : Nat :=
  (bytes.length + 3) / 4

/-- Four bytes in front are one group more. -/
theorem groupCount_cons (a b c d : UInt8) (rest : Bytes) :
    groupCount (a :: b :: c :: d :: rest) = groupCount rest + 1 := by
  unfold groupCount
  simp only [List.length_cons]
  omega

/-- How many groups there are depends on the length only. -/
theorem groupCount_congr {bytes other : Bytes} (h : bytes.length = other.length) :
    bytes.groupCount = other.groupCount := by
  unfold groupCount
  rw [h]

/-- Up to four bytes are one group. -/
theorem groupCount_eq_one {bytes : Bytes} (hsome : 0 < bytes.length) (hfew : bytes.length ≤ 4) :
    bytes.groupCount = 1 := by
  unfold groupCount
  omega

/-- Behind the end every byte is zero. -/
theorem byteAt_of_le {bytes : Bytes} {offset : Nat} (h : bytes.length ≤ offset) :
    bytes.byteAt offset = 0 := by
  unfold byteAt
  rw [List.getElem?_eq_none h]
  rfl

/-- Zeros at the end count as much as what is missing. -/
theorem byteAt_append_zeros (bytes : Bytes) (count offset : Nat) :
    byteAt (bytes ++ List.replicate count 0) offset = bytes.byteAt offset := by
  unfold byteAt
  rcases Nat.lt_or_ge offset bytes.length with hin | hbehind
  · rw [List.getElem?_append_left hin]
  · rw [List.getElem?_append_right hbehind, List.getElem?_eq_none hbehind, List.getElem?_replicate]
    split <;> rfl

/-- Behind the last group there is nothing. -/
theorem group_of_le {bytes : Bytes} {i : Nat} (h : bytes.groupCount ≤ i) : bytes.group i = 0 := by
  unfold groupCount at h
  unfold group
  rw [byteAt_of_le (by omega), byteAt_of_le (by omega), byteAt_of_le (by omega),
    byteAt_of_le (by omega)]
  rfl

/-- A group that is not cut off stays. -/
theorem group_take {n i : Nat} (bytes : Bytes) (h : 4 * i + 4 ≤ n) :
    group (bytes.take n) i = bytes.group i := by
  have hbyte (j : Nat) (hj : j < n) : byteAt (bytes.take n) j = bytes.byteAt j := by
    unfold byteAt
    rw [List.getElem?_take, if_pos hj]
  unfold group
  rw [hbyte _ (by omega), hbyte _ (by omega), hbyte _ (by omega), hbyte _ (by omega)]

/-- What is put behind complete groups does not change them. -/
theorem group_append {i : Nat} {bytes : Bytes} (more : Bytes) (h : 4 * i + 4 ≤ bytes.length) :
    group (bytes ++ more) i = bytes.group i := by
  rw [← group_take (bytes ++ more) h, List.take_left]

/-! ## Comparing groups -/

/-- A word has its bytes. -/
theorem word32_inj {a b c d a' b' c' d' : UInt8} (h : word32 a b c d = word32 a' b' c' d') :
    a = a' ∧ b = b' ∧ c = c' ∧ d = d' := by
  have hbytes := congrArg le32 h
  rw [le32_word32, le32_word32] at hbytes
  simpa using hbytes

/-- Byte strings with the same groups have the same bytes at every offset. -/
theorem byteAt_eq_of_group_eq {bytes other : Bytes} (h : ∀ i, bytes.group i = other.group i)
    (offset : Nat) : bytes.byteAt offset = other.byteAt offset := by
  obtain ⟨h0, h1, h2, h3⟩ := word32_inj (h (offset / 4))
  have hoffset := Nat.div_add_mod offset 4
  have hplace : offset % 4 < 4 := Nat.mod_lt _ (by decide)
  -- the offset is one of the four places of its group
  match hmod : offset % 4, hplace with
  | 0, _ => rwa [show 4 * (offset / 4) = offset by omega] at h0
  | 1, _ => rwa [show 4 * (offset / 4) + 1 = offset by omega] at h1
  | 2, _ => rwa [show 4 * (offset / 4) + 2 = offset by omega] at h2
  | 3, _ => rwa [show 4 * (offset / 4) + 3 = offset by omega] at h3

/-- Byte strings of one length are equal if their groups are. -/
theorem eq_of_group_eq {bytes other : Bytes} (hlength : bytes.length = other.length)
    (h : ∀ i, bytes.group i = other.group i) : bytes = other := by
  apply List.ext_getElem hlength
  intro i hi hother
  have hbyte := byteAt_eq_of_group_eq h i
  unfold byteAt at hbyte
  rwa [List.getElem?_eq_getElem hi, List.getElem?_eq_getElem hother] at hbyte

/-- Outside group number `k` the bytes are the same. -/
def AgreeOutside (k : Nat) (bytes other : Bytes) : Prop :=
  ∀ j, j / 4 ≠ k → bytes[j]? = other[j]?

namespace AgreeOutside

variable {bytes other : Bytes} {k : Nat}

/-- Cutting both byte strings off at the same place adds no difference. -/
theorem take (h : AgreeOutside k bytes other) (n : Nat) :
    AgreeOutside k (bytes.take n) (other.take n) := by
  intro j hj
  rw [List.getElem?_take, List.getElem?_take, h j hj]

/-- The groups in front of the one in question are the same. -/
theorem take_eq (h : AgreeOutside k bytes other) {m : Nat} (hm : m ≤ k) :
    bytes.take (4 * m) = other.take (4 * m) := by
  apply List.ext_getElem?
  intro j
  rw [List.getElem?_take, List.getElem?_take]
  split
  · next hj => exact h j (by omega)
  · rfl

/-- The groups behind the one in question are the same. -/
theorem drop_eq (h : AgreeOutside k bytes other) {m : Nat} (hm : k < m) :
    bytes.drop (4 * m) = other.drop (4 * m) := by
  apply List.ext_getElem?
  intro j
  rw [List.getElem?_drop, List.getElem?_drop]
  exact h _ (by omega)

/-- Without the groups in front, the one in question has a lower number. -/
theorem drop (h : AgreeOutside k bytes other) {m : Nat} (hm : m ≤ k) :
    AgreeOutside (k - m) (bytes.drop (4 * m)) (other.drop (4 * m)) := by
  intro j hj
  rw [List.getElem?_drop, List.getElem?_drop]
  exact h _ (by omega)

/-- Bytes outside a group are no concern of the group. -/
theorem group_eq (h : AgreeOutside k bytes other) {i : Nat} (hi : i ≠ k) :
    bytes.group i = other.group i := by
  have hbyte (j : Nat) (hj : j / 4 = i) : bytes.byteAt j = other.byteAt j := by
    unfold byteAt
    rw [h j (by omega)]
  unfold group
  rw [hbyte (4 * i) (by omega), hbyte (4 * i + 1) (by omega), hbyte (4 * i + 2) (by omega),
    hbyte (4 * i + 3) (by omega)]

/-- Byte strings of one length that differ, but only in the bytes of one group, differ in that
group. -/
theorem group_ne (h : AgreeOutside k bytes other) (hlength : bytes.length = other.length)
    (hne : bytes ≠ other) : bytes.group k ≠ other.group k := by
  intro hgroup
  apply hne
  apply eq_of_group_eq hlength
  intro i
  by_cases hi : i = k
  · rw [hi, hgroup]
  · exact h.group_eq hi

end AgreeOutside

/-! ## Flipping bits -/

/-- Flipping a bit leaves the length as it is. -/
@[simp]
theorem length_flipBit (bytes : Bytes) (bit : Nat) :
    (bytes.flipBit bit).length = bytes.length :=
  length_flip bytes _ _

/-- A bit can be flipped before the end is cut off or after that. -/
theorem take_flipBit (bytes : Bytes) (bit n : Nat) :
    (bytes.flipBit bit).take n = flipBit (bytes.take n) bit :=
  List.take_modify _ _ _ _

/-- A bit that is flipped in front is not seen behind. -/
theorem drop_flipBit_of_lt {bytes : Bytes} {bit n : Nat} (h : bit < 8 * n) :
    (bytes.flipBit bit).drop n = bytes.drop n :=
  List.drop_modify_of_lt _ _ _ _ (by omega)

/-- There is nothing to flip behind the end. -/
theorem flipBit_of_le {bytes : Bytes} {bit : Nat} (h : 8 * bytes.length ≤ bit) :
    bytes.flipBit bit = bytes :=
  List.modify_eq_self (by omega)

/-- Without the bytes in front, a bit has a lower number. -/
theorem drop_flipBit_of_le {bytes : Bytes} {bit n : Nat} (h : 8 * n ≤ bit) :
    (bytes.flipBit bit).drop n = flipBit (bytes.drop n) (bit - 8 * n) := by
  unfold flipBit flip
  rw [List.drop_modify_of_ge _ _ _ _ (by omega), show (bit - 8 * n) / 8 = bit / 8 - n by omega,
    show (bit - 8 * n) % 8 = bit % 8 by omega]

/-- A flip concerns the group that holds the bit, and no other. -/
theorem agreeOutside_flipBit (bytes : Bytes) (bit : Nat) :
    AgreeOutside (bit / 32) (bytes.flipBit bit) bytes := by
  intro j hj
  exact List.getElem?_modify_ne _ _ (by omega)

/-- A mask changes the byte at its offset and no other. -/
theorem byteAt_flip {bytes : Bytes} {offset : Nat} (mask : UInt8) (h : offset < bytes.length)
    (j : Nat) :
    (bytes.flip offset mask).byteAt j =
      bytes.byteAt j ^^^ (if j = offset then mask else 0) := by
  unfold byteAt flip
  rw [List.getElem?_modify]
  by_cases hj : j = offset
  · subst hj
    rw [List.getElem?_eq_getElem h]
    simp
  · rw [if_neg hj, UInt8.xor_zero]
    simp [Ne.symm hj]

/-- Words differ in the bits in which their bytes differ. -/
theorem word32_xor (a b c d a' b' c' d' : UInt8) :
    word32 (a ^^^ a') (b ^^^ b') (c ^^^ c') (d ^^^ d') =
      word32 a b c d ^^^ word32 a' b' c' d' := by
  have hregroup (p q r s p' q' r' s' : UInt32) :
      p ^^^ p' ^^^ (q ^^^ q') ^^^ (r ^^^ r') ^^^ (s ^^^ s') =
        p ^^^ q ^^^ r ^^^ s ^^^ (p' ^^^ q' ^^^ r' ^^^ s') := by ac_rfl
  rw [word32_eq_xor, word32_eq_xor, word32_eq_xor, UInt8.toUInt32_xor, UInt8.toUInt32_xor,
    UInt8.toUInt32_xor, UInt8.toUInt32_xor, UInt32.shiftLeft_xor, UInt32.shiftLeft_xor,
    UInt32.shiftLeft_xor]
  exact hregroup _ _ _ _ _ _ _ _

/-- A word with one bit set has one byte that is not zero. -/
theorem word32_of_bit {place bit : Nat} (hplace : place < 4) (hbit : bit < 8) :
    let mask : UInt8 := 1 <<< bit.toUInt8
    word32 (if 0 = place then mask else 0) (if 1 = place then mask else 0)
      (if 2 = place then mask else 0) (if 3 = place then mask else 0) =
        UInt32.ofNat (2 ^ (8 * place + bit)) := by
  have hall : ∀ place < 4, ∀ bit < 8,
      let mask : UInt8 := 1 <<< bit.toUInt8
      word32 (if 0 = place then mask else 0) (if 1 = place then mask else 0)
        (if 2 = place then mask else 0) (if 3 = place then mask else 0) =
          UInt32.ofNat (2 ^ (8 * place + bit)) := by
    decide +kernel
  exact hall place hplace bit hbit

/-- Flipping a bit flips a bit of its group. -/
theorem group_flipBit {bytes : Bytes} {bit : Nat} (h : bit < 8 * bytes.length) (i : Nat) :
    (bytes.flipBit bit).group i =
      bytes.group i ^^^ (if i = bit / 32 then UInt32.ofNat (2 ^ (bit % 32)) else 0) := by
  have hbyte (j : Nat) := byteAt_flip ((1 : UInt8) <<< (bit % 8).toUInt8)
    (show bit / 8 < bytes.length by omega) j
  unfold group flipBit
  rw [hbyte, hbyte, hbyte, hbyte, word32_xor]
  congr 1
  by_cases hi : i = bit / 32
  · have hplace (n : Nat) (hn : n < 4) : (4 * i + n = bit / 8) = (n = bit / 8 % 4) :=
      propext (by omega)
    have hzero : (4 * i = bit / 8) = (0 = bit / 8 % 4) := hplace 0 (by decide)
    simp only [hzero, hplace 1 (by decide), hplace 2 (by decide), hplace 3 (by decide), if_pos hi]
    rw [word32_of_bit (Nat.mod_lt _ (by decide)) (Nat.mod_lt _ (by decide)),
      show 8 * (bit / 8 % 4) + bit % 8 = bit % 32 by omega]
  · rw [if_neg (by omega), if_neg (by omega), if_neg (by omega), if_neg (by omega), if_neg hi]
    rfl

/-- A flipped bit inside the bytes makes a difference. -/
theorem flipBit_ne {bytes : Bytes} {bit : Nat} (h : bit < 8 * bytes.length) :
    bytes.flipBit bit ≠ bytes := by
  intro heq
  have hgroup := group_flipBit h (bit / 32)
  rw [heq, if_pos rfl] at hgroup
  have hclear := (UInt32.xor_right_inj _).mp (UInt32.xor_zero.trans hgroup)
  have hvalue := congrArg UInt32.toNat hclear
  rw [UInt32.toNat_ofNat_of_lt' (Nat.pow_lt_pow_right (by omega) (Nat.mod_lt _ (by omega)))]
    at hvalue
  exact Nat.ne_of_gt (Nat.two_pow_pos _) hvalue.symm

end Reflash.Bytes
