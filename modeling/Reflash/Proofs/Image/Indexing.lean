import Reflash.Image.File
import Reflash.Proofs.Bytes.Indexing
import Reflash.Proofs.Image.Stamping

/-!
# Images by offsets

The operations on a loaded image, by offsets into its bytes and without the proof that there is a
header region. `Held` says which bytes a loaded image can hold: those that were found to be an image
when they were loaded, and what any number of stamps made of them. A stamp makes an image of an image,
so all of these have a header region (`Held.exists_bytes_eq`), and where there is a header region no
operation breaks off.
-/

namespace Reflash.Image

open Bytes Indexing

/-! ## The operations -/

/-- The bytes behind the header region. -/
def payloadByIndex (bytes : Bytes) : Indexing Bytes :=
  cut bytes regionSize bytes.length

/-- The word at offsets `start` up to `stop`. -/
def wordByIndex (bytes : Bytes) (start stop : Nat) : Indexing UInt32 := do
  word (← cut bytes start stop)

/-- The checksum in the header region. -/
def storedCrcByIndex (bytes : Bytes) : Indexing UInt32 :=
  wordByIndex bytes crcOffset sizeOffset

/-- The size in the header region. -/
def storedSizeByIndex (bytes : Bytes) : Indexing UInt32 :=
  wordByIndex bytes sizeOffset regionSize

/-- The stamp that the payload asks for. What is too short for a header region is refused. -/
def expectedStampByIndex (bytes : Bytes) : Indexing Stamp :=
  if bytes.length < regionSize then throw (.invalidImage (.short bytes.length regionSize))
  else do
    let payload ← payloadByIndex bytes
    return { crc := Checksum.ofBytes payload, size := UInt32.ofNat payload.length }

/-- Stamps the bytes: the stamp that was written, and the bytes afterwards. -/
def stampByIndex (bytes : Bytes) : Indexing (Stamp × Bytes) := do
  let stamp ← expectedStampByIndex bytes
  let stamped ← paste bytes crcOffset regionSize stamp.encode
  return (stamp, stamped)

/-- Compares the stored stamp with the one that the payload asks for, the size first. -/
def verifyByIndex (bytes : Bytes) : Indexing Unit := do
  let expected ← expectedStampByIndex bytes
  let size ← storedSizeByIndex bytes
  let crc ← storedCrcByIndex bytes
  if size ≠ expected.size then throw (.invalidImage (.sizeMismatch size expected.size))
  else if crc ≠ expected.crc then throw (.crcMismatch crc expected.crc)
  else return ()

/-! ## Behind a header region -/

section Region

variable (image : Image)

/-- The payload of an image is found by its offset. -/
theorem payloadByIndex_bytes : payloadByIndex image.bytes = pure image.payload :=
  cut_eq image.region_le (Nat.le_refl _)

/-- A word of the header region is found by its offset. -/
theorem wordByIndex_bytes {offset : Nat} (h : offset + 4 ≤ regionSize) :
    wordByIndex image.bytes offset (offset + 4) = pure (image.wordAt offset h) := by
  have hlength : offset + 4 ≤ image.bytes.length := Nat.le_trans h image.region_le
  have hpart : image.bytes.slice offset (offset + 4) (Nat.le_add_right _ _) hlength =
      [image.bytes[offset], image.bytes[offset + 1], image.bytes[offset + 2],
        image.bytes[offset + 3]] := by
    unfold slice
    rw [Nat.add_sub_cancel_left, List.drop_eq_getElem_cons (by omega),
      List.drop_eq_getElem_cons (by omega), List.drop_eq_getElem_cons (by omega),
      List.drop_eq_getElem_cons (by omega)]
    rfl
  unfold wordByIndex
  rw [cut_eq (Nat.le_add_right _ _) hlength, pure_bind, hpart]
  rfl

/-- The stored checksum is found by its offset. -/
theorem storedCrcByIndex_bytes : storedCrcByIndex image.bytes = pure image.storedCrc :=
  wordByIndex_bytes image (by decide)

/-- The stored size is found by its offset. -/
theorem storedSizeByIndex_bytes : storedSizeByIndex image.bytes = pure image.storedSize :=
  wordByIndex_bytes image (by decide)

/-- The stamp that an image asks for can be calculated by offsets. -/
theorem expectedStampByIndex_bytes :
    expectedStampByIndex image.bytes = pure image.expectedStamp := by
  have hregion : ¬ image.bytes.length < regionSize := Nat.not_lt_of_le image.region_le
  unfold expectedStampByIndex
  rw [if_neg hregion, payloadByIndex_bytes, pure_bind]
  rfl

/-- Stamping by offsets gives the stamp and the stamped image, and never breaks off. -/
theorem stampByIndex_bytes :
    stampByIndex image.bytes = pure (image.expectedStamp, image.stamp.bytes) := by
  have hpaste : paste image.bytes crcOffset regionSize image.expectedStamp.encode =
      pure image.stamp.bytes := paste_eq (by decide) image.region_le rfl
  unfold stampByIndex
  rw [expectedStampByIndex_bytes, pure_bind, hpaste, pure_bind]

/-- Checking by offsets comes to the verdict of the check, and never breaks off. -/
theorem run_verifyByIndex_bytes : (verifyByIndex image.bytes).run = some image.verify := by
  unfold verifyByIndex verify
  rw [expectedStampByIndex_bytes, storedSizeByIndex_bytes, storedCrcByIndex_bytes]
  simp only [pure_bind]
  split
  · rfl
  · split <;> rfl

end Region

/-! ## What an image can hold -/

/-- The bytes that a loaded image can hold: it was made from bytes or loaded from a file, and then
stamped any number of times. -/
inductive Held : Bytes → Prop where
  | ofBytes {bytes image} : ofBytes bytes = .ok image → Held image.bytes
  | load {tree path image} : (load tree path).1 = .ok image → Held image.bytes
  | stamp {bytes stamp stamped} : Held bytes →
      (stampByIndex bytes).run = some (.ok (stamp, stamped)) → Held stamped

/-- What a stamp makes of an image, an image can hold. -/
theorem Held.bytes_stamp {image : Image} (h : Held image.bytes) : Held image.stamp.bytes :=
  .stamp h (congrArg ExceptT.run (stampByIndex_bytes image))

/-- What an image can hold is an image. -/
theorem Held.exists_bytes_eq {bytes : Bytes} (h : Held bytes) :
    ∃ image : Image, image.bytes = bytes := by
  induction h with
  | @ofBytes _ image _ => exact ⟨image, rfl⟩
  | @load _ _ image _ => exact ⟨image, rfl⟩
  | stamp _ hstamp ih =>
      obtain ⟨image, rfl⟩ := ih
      rw [stampByIndex_bytes] at hstamp
      cases hstamp
      exact ⟨image.stamp, rfl⟩

end Reflash.Image
