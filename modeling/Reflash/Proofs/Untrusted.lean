import Reflash.Proofs.Device.Record
import Reflash.Proofs.Frame.Indexing
import Reflash.Proofs.Image.Indexing
import Reflash.Proofs.Image.Metadata

/-!
# Bytes from anywhere

Frames, records, extended headers and images are read from bytes that a device or a file gave, so
nothing is known of them. `untrusted_bytes_read_safely` goes through all of what reads such bytes:
whatever the bytes are, no offset is ever out of range, no reader meets the end of its bytes inside a
record, and what is refused is refused by its length, its checksum or its magic number.
-/

namespace Reflash

open Bytes Indexing Image

/-- The text in a field of fixed width, cut out by its end: the first zero byte, or the width of the
field if there is none. -/
def Text.ofFieldByIndex (field : Bytes) : Indexing String := do
  let text ← cut field 0 ((field.findIdx? (· = 0)).getD field.length)
  return Text.Utf8.decode text

/-- Cut out by its offsets, a text is that of its field. -/
theorem Text.ofFieldByIndex_eq (field : Bytes) :
    Text.ofFieldByIndex field = pure (Text.ofField field) := by
  have hstop : (field.findIdx? (· = 0)).getD field.length = field.findIdx (· = 0) :=
    List.findIdx_eq_getD_findIdx?.symm
  have htext : field.takeWhile (· ≠ 0) = field.take (field.findIdx (· = 0)) := by
    rw [List.takeWhile_eq_take_findIdx_not]
    simp only [ne_eq, decide_not, Bool.not_not]
  unfold ofFieldByIndex ofField
  rw [hstop, cut_eq (Nat.zero_le _) List.findIdx_le_length, pure_bind, htext]
  rfl

/-- Nothing that is read from bytes reaches past their end, whatever the bytes are. A frame is decoded
by offsets that come from its own preamble, and this gives the frame, or finds bytes missing, or finds
it corrupt. Announcements and device records are told by their size alone, and the text in a field ends
inside the field. There is an extended header wherever there are enough bytes and the magic number is
in front, and where there are enough the reader never runs out of them. The bytes of a loaded image,
stamped any number of times, are those of an image, and all operations on it by offsets give what the
operations on the image give, so stamping it does not fail. -/
theorem untrusted_bytes_read_safely :
    (∀ data : Bytes, (Frame.decodeByIndex data).run = some (Frame.decode data) ∧
      ((∃ frame, Frame.decode data = .ok frame) ∨
        (∃ needed available, Frame.decode data = .error (.truncatedMessage needed available)) ∨
        (∃ part expected actual,
          Frame.decode data = .error (.corruptMessage part expected actual)))) ∧
    (∀ data : Bytes, ((∃ a, Announcement.decode data = .ok a) ↔ data.length = 12) ∧
      (data.length ≠ 12 → Announcement.decode data = .error (.malformedPayload 12 data.length))) ∧
    (∀ data : Bytes, ((∃ info, DeviceInfo.decode data = .ok info) ↔ data.length = 82) ∧
      (data.length ≠ 82 → DeviceInfo.decode data = .error (.malformedPayload 82 data.length))) ∧
    (∀ field : Bytes, (Text.ofFieldByIndex field).run = some (.ok (Text.ofField field))) ∧
    (∀ bytes : Bytes,
      ((Header.parse? bytes).isSome ↔ 70 ≤ bytes.length ∧ bytes.take 2 = [0xBB, 0xAA]) ∧
      (70 ≤ bytes.length → ∃ found, Header.reader.value? bytes = some found)) ∧
    (∀ bytes : Bytes, Held bytes → ∃ image, ofBytes bytes = .ok image ∧ image.bytes = bytes ∧
      (payloadByIndex bytes).run = some (.ok image.payload) ∧
      (storedCrcByIndex bytes).run = some (.ok image.storedCrc) ∧
      (storedSizeByIndex bytes).run = some (.ok image.storedSize) ∧
      (stampByIndex bytes).run = some (.ok (image.expectedStamp, image.stamp.bytes)) ∧
      (verifyByIndex bytes).run = some image.verify) := by
  refine ⟨fun data => ⟨Frame.run_decodeByIndex data, Frame.decode_outcomes data⟩,
    fun data => ⟨Announcement.fixedSize_decode.ok_iff data,
      Announcement.fixedSize_decode.refused data⟩,
    fun data => ⟨DeviceInfo.fixedSize_decode.ok_iff data,
      DeviceInfo.fixedSize_decode.refused data⟩,
    fun field => congrArg ExceptT.run (Text.ofFieldByIndex_eq field),
    fun bytes => ⟨Header.isSome_parse?_iff bytes, Header.exists_value?_reader⟩,
    fun bytes hheld => ?_⟩
  obtain ⟨image, rfl⟩ := hheld.exists_bytes_eq
  refine ⟨image, ofBytes_of_le image.region_le, rfl, ?_⟩
  exact ⟨congrArg ExceptT.run (payloadByIndex_bytes image),
    congrArg ExceptT.run (storedCrcByIndex_bytes image),
    congrArg ExceptT.run (storedSizeByIndex_bytes image),
    congrArg ExceptT.run (stampByIndex_bytes image), run_verifyByIndex_bytes image⟩

/-- A preamble in order that announces 4 GiB which are not there, an announcement that lacks a byte, a
device record with one too many, a text that fills its field, a header of zeros behind its magic
number, and an image with one byte of payload that is stamped twice. -/
theorem untrusted_bytes_read_safely_hostile :
    let covered := Preamble.covered 3 0xFFFFFFFF 0
    (Frame.decodeByIndex (covered ++ le32 (Checksum.ofBytes covered))).run =
      some (.error (.truncatedMessage 4294967311 16)) ∧
    Announcement.decode (List.replicate 11 0) = .error (.malformedPayload 12 11) ∧
    DeviceInfo.decode (List.replicate 83 0) = .error (.malformedPayload 82 83) ∧
    (Text.ofFieldByIndex (List.replicate 14 0x61)).run = some (.ok "aaaaaaaaaaaaaa") ∧
    (∃ header, Header.reader.value? (0xBB :: 0xAA :: List.replicate 68 0) = some (some header)) ∧
    ∃ bytes : Bytes, Held bytes ∧ bytes.take 4 = List.replicate 4 7 ∧ bytes.drop 12 = [7] ∧
      (verifyByIndex bytes).run = some (.ok ()) := by
  obtain ⟨hframes, hannouncements, hrecords, htexts, hheaders, himages⟩ := untrusted_bytes_read_safely
  intro covered
  let preamble : Preamble :=
    { typeId := 3, length := 0xFFFFFFFF, payloadCrc := 0, headerCrc := Checksum.ofBytes covered }
  have hmissing : Frame.decode (preamble.encode ++ []) =
      .error (.truncatedMessage (Preamble.size + preamble.length.toNat)
        (preamble.encode ++ []).length) := Frame.decode_of_missing rfl (by decide)
  have hneeded : Preamble.size + preamble.length.toNat = 4294967311 := by decide
  rw [List.append_nil, hneeded, Preamble.length_encode] at hmissing
  refine ⟨(hframes _).1.trans (congrArg some hmissing), (hannouncements _).2 (by decide),
    (hrecords _).2 (by decide), htexts _, ?_, ?_⟩
  · obtain ⟨hfound, hread⟩ := hheaders (0xBB :: 0xAA :: List.replicate 68 0)
    have hparse := hfound.mpr ⟨by decide, rfl⟩
    obtain ⟨found, hvalue⟩ := hread (by decide)
    unfold Header.parse? at hparse
    rw [if_neg (by decide), hvalue] at hparse
    obtain ⟨header, rfl⟩ := Option.isSome_iff_exists.mp hparse
    exact ⟨header, hvalue⟩
  · let image : Image := ⟨List.replicate 13 7, by decide⟩
    have hloaded : Held image.bytes := .ofBytes (ofBytes_of_le (by decide))
    have hstamped : Held image.stamp.stamp.bytes := hloaded.bytes_stamp.bytes_stamp
    obtain ⟨found, _, hbytes, _, _, _, _, hverify⟩ := himages _ hstamped
    rw [eq_of_bytes_eq hbytes, image.stamp.verify_stamp] at hverify
    exact ⟨_, hstamped, rfl, rfl, hverify⟩

end Reflash
