import Reflash.Announcement
import Reflash.Frame
import Reflash.Proofs.Bytes.Words

/-!
# Decoding undoes encoding

`decode_preamble_append` is what decoding does to any byte string that is long enough, written in
terms of the preamble at its front and the bytes behind it: the checks in their order, with
nothing left of the reader. `decode_exact` draws the conclusion: decoding accepts the encodings of
frames whose length and checksums are right, followed by any bytes, and nothing else.
-/

namespace Reflash

open Bytes

namespace Preamble

/-- The reader for a preamble accepts an encoded preamble and nothing else. -/
theorem reader_eq_some_iff {bytes rest : Bytes} {p : Preamble} :
    reader bytes = some (p, rest) ↔ bytes = p.encode ++ rest := by
  unfold reader
  simp only [Reader.bind_eq_some_iff, Reader.u32_eq_some_iff, Reader.pure_eq_some_iff]
  constructor
  · rintro ⟨typeId, _, rfl, length, _, rfl, payloadCrc, _, rfl, headerCrc, _, rfl, rfl, rfl⟩
    simp only [encode, covered, List.append_assoc]
  · rintro rfl
    exact ⟨p.typeId, _, by simp only [encode, covered, List.append_assoc], p.length, _, rfl,
      p.payloadCrc, _, rfl, p.headerCrc, _, rfl, rfl, rfl⟩

/-- Whatever is long enough starts with some preamble. -/
theorem exists_eq_encode_append {data : Bytes} (h : size ≤ data.length) :
    ∃ (p : Preamble) (rest : Bytes), data = p.encode ++ rest := by
  match data, h with
  | a0 :: a1 :: a2 :: a3 :: b0 :: b1 :: b2 :: b3 :: c0 :: c1 :: c2 :: c3 :: d0 :: d1 :: d2 ::
      d3 :: rest, _ =>
    refine ⟨⟨word32 a0 a1 a2 a3, word32 b0 b1 b2 b3, word32 c0 c1 c2 c3, word32 d0 d1 d2 d3⟩,
      rest, ?_⟩
    simp only [encode, covered, le32_word32]
    rfl

end Preamble

namespace Frame

/-- What is too short for a preamble is truncated. -/
theorem decode_of_short {data : Bytes} (h : data.length < Preamble.size) :
    decode data = .error (.truncatedMessage Preamble.size data.length) := by
  unfold decode
  rw [dif_pos h]

/-- Decoding a preamble with further bytes behind it: first the preamble's own checksum, then the
length, then the checksum of the payload. -/
theorem decode_preamble_append (p : Preamble) (rest : Bytes) :
    decode (p.encode ++ rest) =
      let header := Checksum.ofBytes (Preamble.covered p.typeId p.length p.payloadCrc)
      let payload := rest.take p.length.toNat
      if header ≠ p.headerCrc then .error (.corruptMessage .header p.headerCrc header)
      else if rest.length < p.length.toNat then
        .error (.truncatedMessage (Preamble.size + p.length.toNat) (Preamble.size + rest.length))
      else if Checksum.ofBytes payload ≠ p.payloadCrc then
        .error (.corruptMessage .payload p.payloadCrc (Checksum.ofBytes payload))
      else .ok { toPreamble := p, payload } := by
  have hlong : ¬ (p.encode ++ rest).length < Preamble.size := by
    rw [List.length_append, Preamble.length_encode]
    omega
  have hread : Preamble.reader.value? (p.encode ++ rest) = some p :=
    Reader.value?_eq_some_iff.mpr ⟨rest, Preamble.reader_eq_some_iff.mpr rfl⟩
  have hcovered (h1 h2) : (p.encode ++ rest).slice 0 Preamble.coveredSize h1 h2 =
      Preamble.covered p.typeId p.length p.payloadCrc := rfl
  have hpayload (h1 h2) : (p.encode ++ rest).slice Preamble.size
      (Preamble.size + p.length.toNat) h1 h2 = rest.take p.length.toNat := by
    unfold slice
    rw [List.drop_left' (Preamble.length_encode p), Nat.add_sub_cancel_left]
  have hlength : (p.encode ++ rest).length = Preamble.size + rest.length := by
    rw [List.length_append, Preamble.length_encode]
  unfold decode
  rw [dif_neg hlong]
  simp only [hread, hcovered, hpayload, hlength, Nat.add_lt_add_iff_left]
  split
  · rfl
  · split
    · rfl
    · rfl

/-- A frame whose length and checksums are right is decoded from the front of its encoding. -/
theorem decode_encode_append {frame : Frame} (rest : Bytes)
    (hlength : frame.length.toNat = frame.payload.length)
    (hpayload : frame.payloadCrc = Checksum.ofBytes frame.payload)
    (hheader : frame.headerCrc =
      Checksum.ofBytes (Preamble.covered frame.typeId frame.length frame.payloadCrc)) :
    decode (frame.encode ++ rest) = .ok frame := by
  have htake : (frame.payload ++ rest).take frame.length.toNat = frame.payload := by
    rw [hlength, List.take_left]
  have henough : ¬ (frame.payload ++ rest).length < frame.length.toNat := by
    rw [hlength, List.length_append]
    omega
  unfold encode
  rw [List.append_assoc, decode_preamble_append]
  simp only [htake, if_neg henough, ← hheader, ← hpayload, ne_eq, not_true_eq_false, if_false]

/-- The frame of a request is decoded from the front of its encoding. -/
theorem decode_request_append (request : Request) (payload rest : Bytes)
    (hsize : payload.length < 2 ^ 32) :
    decode (request.encode payload ++ rest) = .ok (ofRequest request payload) := by
  apply decode_encode_append
  · show (UInt32.ofNat payload.length).toNat = payload.length
    exact UInt32.toNat_ofNat_of_lt' hsize
  · rfl
  · rfl

/-- Decoding accepts exactly the encodings of frames whose length and checksums are right, with
any bytes behind them. -/
theorem decode_eq_ok_iff {data : Bytes} {frame : Frame} :
    decode data = .ok frame ↔
      ∃ rest, data = frame.encode ++ rest ∧
        frame.length.toNat = frame.payload.length ∧
        frame.payloadCrc = Checksum.ofBytes frame.payload ∧
        frame.headerCrc = Checksum.ofBytes
          (Preamble.covered frame.typeId frame.length frame.payloadCrc) := by
  constructor
  · intro h
    by_cases hsize : data.length < Preamble.size
    · rw [decode_of_short hsize] at h
      cases h
    · obtain ⟨p, rest, rfl⟩ := Preamble.exists_eq_encode_append (Nat.le_of_not_lt hsize)
      rw [decode_preamble_append] at h
      dsimp only at h
      split at h
      · cases h
      · split at h
        · cases h
        · split at h
          · cases h
          · -- every check was passed, so the frame is the one read
            rename_i hheader henough hpayload
            cases h
            refine ⟨rest.drop p.length.toNat, ?_, ?_, ?_, ?_⟩
            · unfold encode
              rw [List.append_assoc, List.take_append_drop]
            · rw [List.length_take, Nat.min_eq_left (Nat.le_of_not_lt henough)]
            · exact (Decidable.not_not.mp hpayload).symm
            · exact (Decidable.not_not.mp hheader).symm
  · rintro ⟨rest, rfl, hlength, hpayload, hheader⟩
    exact decode_encode_append rest hlength hpayload hheader

/-- Decoding and encoding are inverse to each other: decoding accepts exactly the encodings of
frames whose length and checksums are right, followed by any bytes; the frame of every request
with a payload below 4 GiB is one of these; and what was decoded is what stands at the front. -/
theorem decode_exact :
    (∀ (data : Bytes) (frame : Frame), decode data = .ok frame ↔
      ∃ rest, data = frame.encode ++ rest ∧
        frame.length.toNat = frame.payload.length ∧
        frame.payloadCrc = Checksum.ofBytes frame.payload ∧
        frame.headerCrc = Checksum.ofBytes
          (le32 frame.typeId ++ le32 frame.length ++ le32 frame.payloadCrc)) ∧
    (∀ (request : Request) (payload rest : Bytes), payload.length < 2 ^ 32 →
      decode (request.encode payload ++ rest) = .ok (ofRequest request payload)) ∧
    (∀ (data : Bytes) (frame : Frame), decode data = .ok frame → frame.encode <+: data) := by
  refine ⟨fun data frame => decode_eq_ok_iff, decode_request_append, ?_⟩
  intro data frame h
  obtain ⟨rest, rfl, _⟩ := decode_eq_ok_iff.mp h
  exact List.prefix_append _ _

/-- A short page with two stray bytes behind it is decoded, and read up to its own end. -/
theorem decode_exact_stray_bytes :
    ([1, 2, 3] : Bytes).length < 2 ^ 32 ∧
      decode (Request.data.encode [1, 2, 3] ++ [9, 9]) = .ok (ofRequest .data [1, 2, 3]) ∧
      (ofRequest .data [1, 2, 3]).encode <+: Request.data.encode [1, 2, 3] ++ [9, 9] := by
  have hsize : ([1, 2, 3] : Bytes).length < 2 ^ 32 := by decide
  have hdecode := decode_exact.2.1 .data [1, 2, 3] [9, 9] hsize
  exact ⟨hsize, hdecode, decode_exact.2.2 _ _ hdecode⟩

/-- The frame of a request carries the request. -/
theorem request?_ofRequest (request : Request) (payload : Bytes) :
    (ofRequest request payload).request? = some request :=
  Request.ofCode?_code request

end Frame

/-- Frames that are equal on the wire carry the same request. -/
theorem Request.eq_of_encode_eq {request other : Request} {payload rest : Bytes}
    (h : request.encode payload = other.encode rest) : request = other := by
  have hbytes : le32 request.code = le32 other.code := congrArg (List.take 4) h
  have hcode : request.code = other.code := le32_inj.mp hbytes
  apply Option.some.inj
  rw [← ofCode?_code, ← ofCode?_code, hcode]

namespace Announcement

/-- The reader for an announcement accepts three words, of which the first is any. -/
theorem reader_eq_some_iff {bytes rest : Bytes} {a : Announcement} :
    reader bytes = some (a, rest) ↔
      ∃ reserved, bytes = le32 reserved ++ le32 a.totalLength ++ le32 a.totalCrc ++ rest := by
  unfold reader
  simp only [Reader.bind_eq_some_iff, Reader.u32_eq_some_iff, Reader.pure_eq_some_iff]
  constructor
  · rintro ⟨reserved, _, rfl, totalLength, _, rfl, totalCrc, _, rfl, rfl, rfl⟩
    exact ⟨reserved, by simp only [List.append_assoc]⟩
  · rintro ⟨reserved, rfl⟩
    exact ⟨reserved, _, by simp only [List.append_assoc], a.totalLength, _, rfl,
      a.totalCrc, _, rfl, rfl, rfl⟩

/-- An announcement is decoded from its encoding. -/
theorem decode_encode (a : Announcement) : decode a.encode = .ok a := by
  have hread : reader.value? a.encode = some a :=
    Reader.value?_eq_some_iff.mpr ⟨[], reader_eq_some_iff.mpr ⟨0, (List.append_nil _).symm⟩⟩
  unfold decode
  rw [if_neg (by simp), hread]

end Announcement

end Reflash
