import Reflash.Proofs.Checksum.Streaming
import Reflash.Proofs.Frame.Codec

/-!
# Damaged frames

The preamble of a frame ends in its own checksum, so the checksum over all of it is zero as long
as it is intact (`ofBytes_encode_eq_zero_iff`), and one law covers the words in front of the
checksum and the checksum itself. Decoding looks at the preamble before it believes the length in
it, so damage there is never taken for a missing payload.

`damaged_group_detected` is about any damage to one aligned group of four bytes, and
`corrupt_of_flipBit_flipBit` about two flipped bits anywhere in the frame.
-/

namespace Reflash

open Bytes Checksum

/-- The checksum over a preamble is zero exactly if the checksum in it is that of the words in front
of it. -/
theorem Preamble.ofBytes_encode_eq_zero_iff (p : Preamble) :
    ofBytes p.encode = 0 ↔ ofBytes (covered p.typeId p.length p.payloadCrc) = p.headerCrc := by
  have hresidue : ofBytes p.encode = 0 ↔
      le32 p.headerCrc = le32 (ofBytes (covered p.typeId p.length p.payloadCrc)) :=
    ofBytes_append_eq_zero_iff ⟨3, rfl⟩ (length_le32 _)
  rw [hresidue, le32_inj, eq_comm]

namespace Frame

/-- Decoding reports that the checksum of a part is wrong. -/
def IsCorrupt (part : FramePart) (data : Bytes) : Prop :=
  ∃ expected actual, decode data = .error (.corruptMessage part expected actual)

section Encoded

variable (request : Request) (payload : Bytes)

/-- A frame begins with its preamble. -/
theorem take_encode : (request.encode payload).take Preamble.size =
    (ofRequest request payload).toPreamble.encode :=
  List.take_left' (Preamble.length_encode _)

/-- Behind the preamble of a frame is its payload, and nothing else. -/
theorem drop_encode : (request.encode payload).drop Preamble.size = payload :=
  List.drop_left' (Preamble.length_encode _)

/-- A frame is as long as its preamble and its payload together. -/
theorem length_encode : (request.encode payload).length = Preamble.size + payload.length := by
  show (_ ++ _ : Bytes).length = _
  rw [List.length_append, Preamble.length_encode]
  rfl

/-- The checksum over a whole preamble, its own checksum included, is zero. -/
theorem ofBytes_take_encode : ofBytes ((request.encode payload).take Preamble.size) = 0 := by
  rw [take_encode, Preamble.ofBytes_encode_eq_zero_iff]
  rfl

end Encoded

section Damaged

variable {request : Request} {payload data : Bytes}

/-- Where the checksum over the preamble is not zero, the header is corrupt, whatever follows. -/
theorem isCorrupt_header (hsize : Preamble.size ≤ data.length)
    (h : ofBytes (data.take Preamble.size) ≠ 0) : IsCorrupt .header data := by
  obtain ⟨p, rest, rfl⟩ := Preamble.exists_eq_encode_append hsize
  rw [List.take_left' (Preamble.length_encode p), ne_eq, p.ofBytes_encode_eq_zero_iff] at h
  refine ⟨p.headerCrc, ofBytes (Preamble.covered p.typeId p.length p.payloadCrc), ?_⟩
  rw [decode_preamble_append]
  exact if_pos h

/-- Behind an intact preamble, bytes of the right number with another checksum are a corrupt
payload. -/
theorem isCorrupt_payload (hsize : payload.length < 2 ^ 32)
    (hlength : data.length = (request.encode payload).length)
    (hpreamble : data.take Preamble.size = (request.encode payload).take Preamble.size)
    (h : ofBytes (data.drop Preamble.size) ≠ ofBytes payload) : IsCorrupt .payload data := by
  have hdeclared : (ofRequest request payload).length.toNat = payload.length :=
    UInt32.toNat_ofNat_of_lt' hsize
  have hrest : (data.drop Preamble.size).length = payload.length := by
    rw [List.length_drop, hlength, length_encode]
    omega
  have hdata : data =
      (ofRequest request payload).toPreamble.encode ++ data.drop Preamble.size := by
    rw [← take_encode, ← hpreamble, List.take_append_drop]
  refine ⟨ofBytes payload, ofBytes (data.drop Preamble.size), ?_⟩
  rw [hdata, decode_preamble_append, ← hdata]
  dsimp only
  rw [if_neg (fun hheader => hheader rfl), hdeclared, if_neg (by omega),
    List.take_of_length_le (by omega)]
  exact if_pos h

/-- Damage to one aligned group of a frame is corruption of the part in which the group lies. -/
theorem isCorrupt_of_agree (hsize : payload.length < 2 ^ 32) {i : Nat}
    (h : AgreeOutside i data (request.encode payload))
    (hlength : data.length = (request.encode payload).length)
    (hne : data ≠ request.encode payload) :
    IsCorrupt (if i < 4 then .header else .payload) data := by
  have hlong : Preamble.size ≤ data.length := by
    rw [hlength, length_encode]
    omega
  -- equal halves would be equal frames
  have hhalves (htake : data.take Preamble.size = (request.encode payload).take Preamble.size)
      (hdrop : data.drop Preamble.size = (request.encode payload).drop Preamble.size) : False := by
    apply hne
    rw [← List.take_append_drop Preamble.size data, htake, hdrop, List.take_append_drop]
  by_cases hi : i < 4
  · rw [if_pos hi]
    apply isCorrupt_header hlong
    rw [← ofBytes_take_encode request payload]
    refine ofBytes_ne_of_agree (h.take _) ?_ fun htake => hhalves htake (h.drop_eq hi)
    rw [List.length_take, List.length_take, hlength]
  · have hpreamble := h.take_eq (Nat.le_of_not_lt hi)
    rw [if_neg hi]
    apply isCorrupt_payload hsize hlength hpreamble
    rw [← drop_encode request payload]
    refine ofBytes_ne_of_agree (h.drop (Nat.le_of_not_lt hi)) ?_ (hhalves hpreamble)
    rw [List.length_drop, List.length_drop, hlength]

end Damaged

/-- Damage to one aligned group of four bytes of a frame, of which the last may be shorter, is
always noticed, and as corruption of the part in which the group lies: never as a missing payload,
although the length may be among the damaged words. A single flipped bit is a special case. -/
theorem damaged_group_detected (request : Request) (payload : Bytes)
    (hsize : payload.length < 2 ^ 32) :
    (∀ (damaged : Bytes) (i : Nat), damaged.length = (request.encode payload).length →
      damaged ≠ request.encode payload →
      (∀ j, j / 4 ≠ i → damaged[j]? = (request.encode payload)[j]?) →
      ∃ expected actual, decode damaged =
        .error (.corruptMessage (if i < 4 then .header else .payload) expected actual)) ∧
    (∀ bit < 8 * (request.encode payload).length,
      ∃ expected actual, decode ((request.encode payload).flipBit bit) =
        .error (.corruptMessage (if bit < 8 * Preamble.size then .header else .payload)
          expected actual)) := by
  constructor
  · intro damaged i hlength hne h
    exact isCorrupt_of_agree hsize h hlength hne
  · intro bit hbit
    have hcorrupt := isCorrupt_of_agree hsize (agreeOutside_flipBit (request.encode payload) bit)
      (length_flipBit _ bit) (flipBit_ne hbit)
    have hpart : (bit / 32 < 4) = (bit < 8 * Preamble.size) :=
      propext (by unfold Preamble.size; omega)
    simp only [hpart] at hcorrupt
    exact hcorrupt

/-- A page of three bytes, of which all bits of one byte are damaged. -/
theorem damaged_group_detected_byte :
    ([1, 2, 3] : Bytes).length < 2 ^ 32 ∧
    (Request.data.encode [1, 2, 3]).flip 17 0xFF ≠ Request.data.encode [1, 2, 3] ∧
    ∃ expected actual, decode ((Request.data.encode [1, 2, 3]).flip 17 0xFF) =
      .error (.corruptMessage .payload expected actual) := by
  have hsize : ([1, 2, 3] : Bytes).length < 2 ^ 32 := by decide
  have hne : (Request.data.encode [1, 2, 3]).flip 17 0xFF ≠ Request.data.encode [1, 2, 3] := by
    intro h
    have hbyte := congrArg (fun bytes : Bytes => bytes[17]?) h
    revert hbyte
    decide +kernel
  refine ⟨hsize, hne, ?_⟩
  refine (damaged_group_detected .data [1, 2, 3] hsize).1 _ 4 (length_flip _ _ _) hne ?_
  intro j hj
  exact List.getElem?_modify_ne _ _ (by omega)

/-- Two flipped bits of a frame are noticed, wherever they lie. -/
theorem corrupt_of_flipBit_flipBit (request : Request) {payload : Bytes} {first second : Nat}
    (hsize : payload.length ≤ 2 ^ 29 - 8) (hfirst : first < 8 * (request.encode payload).length)
    (hsecond : second < 8 * (request.encode payload).length) (hne : first ≠ second) :
    ∃ part, IsCorrupt part (((request.encode payload).flipBit first).flipBit second) := by
  have htotal := length_encode request payload
  have hpreamble : ((request.encode payload).take Preamble.size).length = Preamble.size := by
    rw [take_encode, Preamble.length_encode]
  have hlength : (((request.encode payload).flipBit first).flipBit second).length =
      (request.encode payload).length := by
    rw [length_flipBit, length_flipBit]
  -- a preamble with one or two bits flipped has another checksum than an intact one
  have hheader (h : ofBytes (flipBit (flipBit ((request.encode payload).take Preamble.size) first)
      second) ≠ ofBytes ((request.encode payload).take Preamble.size)) :
      ∃ part, IsCorrupt part (((request.encode payload).flipBit first).flipBit second) := by
    refine ⟨.header, isCorrupt_header (by omega) ?_⟩
    rwa [take_flipBit, take_flipBit, ← ofBytes_take_encode request payload]
  rcases Nat.lt_or_ge first (8 * Preamble.size) with hinfront | hbehind
  · apply hheader
    rcases Nat.lt_or_ge second (8 * Preamble.size) with hboth | hone
    · apply ofBytes_flipBit_flipBit_ne _ _ _ hne
      · rw [hpreamble]
        decide
      · rwa [hpreamble]
      · rwa [hpreamble]
    · rw [flipBit_of_le (by rwa [length_flipBit, hpreamble])]
      exact ofBytes_flipBit_ne (by rwa [hpreamble])
  · rcases Nat.lt_or_ge second (8 * Preamble.size) with hone | hboth
    · have hkept : flipBit ((request.encode payload).take Preamble.size) first =
          (request.encode payload).take Preamble.size := flipBit_of_le (by rwa [hpreamble])
      apply hheader
      rw [hkept]
      exact ofBytes_flipBit_ne (by rwa [hpreamble])
    · refine ⟨.payload, isCorrupt_payload (by omega) hlength ?_ ?_⟩
      · rw [take_flipBit, take_flipBit, flipBit_of_le, flipBit_of_le]
        · rwa [hpreamble]
        · rwa [length_flipBit, hpreamble]
      · rw [drop_flipBit_of_le hboth, drop_flipBit_of_le hbehind, drop_encode]
        exact ofBytes_flipBit_flipBit_ne hsize (by omega) (by omega) (by omega)

end Frame

end Reflash
