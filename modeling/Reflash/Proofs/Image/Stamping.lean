import Reflash.Image.Basic
import Reflash.Proofs.Bytes.Groups

/-!
# Stamped images

The stamp of an image is a window onto eight bytes of its header region. What is written there is
read back (`storedStamp_withStamp`), writing what is there already changes nothing
(`withStamp_storedStamp`), and of two stamps the later one stays (`withStamp_withStamp`). The stamp
that an image asks for does not depend on the one that it has (`expectedStamp_withStamp`). So an
image passes the check exactly if stamping leaves it as it is (`verify_eq_ok_iff_stamp_eq`), and
stamping twice is stamping once (`stamp_stamp`).

`verified_iff_stamp_fixed` says this of byte strings, of which not every one is an image.
-/

namespace Reflash.Image

open Bytes

/-! ## The header region in terms of groups -/

/-- A word of the header region is a group of the image. -/
theorem wordAt_eq_group (image : Image) (i : Nat) (h : 4 * i + 4 ≤ regionSize) :
    image.wordAt (4 * i) h = image.bytes.group i := by
  have hregion := image.region_le
  have hbound : 4 * i + 4 ≤ 12 := h
  have hbyte (j : Nat) (hj : j < image.bytes.length) : image.bytes.byteAt j = image.bytes[j] := by
    unfold byteAt
    rw [List.getElem?_eq_getElem hj]
    rfl
  unfold group
  rw [hbyte _ (by omega), hbyte _ (by omega), hbyte _ (by omega), hbyte _ (by omega)]
  rfl

/-- The stored checksum is the second word of the image. -/
theorem storedCrc_eq_group (image : Image) : image.storedCrc = image.bytes.group 1 :=
  wordAt_eq_group image 1 (by decide)

/-- The stored size is the third word of the image. -/
theorem storedSize_eq_group (image : Image) : image.storedSize = image.bytes.group 2 :=
  wordAt_eq_group image 2 (by decide)

/-- An image passes the check when both words of its stamp are those of its payload. -/
theorem verify_eq_ok_iff (image : Image) :
    image.verify = .ok () ↔
      image.bytes.group 2 = UInt32.ofNat image.payload.length ∧
        image.bytes.group 1 = Checksum.ofBytes image.payload := by
  unfold verify expectedStamp
  simp only [storedSize_eq_group, storedCrc_eq_group]
  split
  · next h => simpa using fun hsize => absurd hsize h
  · next h =>
      split
      · next h' => simpa using fun _ => h'
      · next h' => simpa using ⟨Decidable.not_not.mp h, Decidable.not_not.mp h'⟩

/-! ## Writing and reading a stamp -/

/-- The stamp in the header region. -/
def storedStamp (image : Image) : Stamp where
  crc := image.storedCrc
  size := image.storedSize

/-- An image is its bytes. -/
theorem eq_of_bytes_eq {image other : Image} (h : image.bytes = other.bytes) : image = other := by
  cases image
  cases other
  cases h
  rfl

/-- A stamp takes the place of eight bytes; what is in front of them and behind them stays. -/
theorem bytes_withStamp (image : Image) (stamp : Stamp) :
    (image.withStamp stamp).bytes =
      image.bytes.take crcOffset ++ stamp.encode ++ image.bytes.drop regionSize :=
  rfl

section Written

variable (image : Image) (stamp : Stamp)

/-- A stamp leaves the length as it is. -/
theorem length_withStamp : (image.withStamp stamp).bytes.length = image.bytes.length := by
  have hregion := image.region_le
  refine length_overwrite image.bytes crcOffset stamp.encode ?_
  show 4 + 8 ≤ image.bytes.length
  omega

/-- A stamp leaves alone what is in front of it. -/
theorem take_withStamp :
    (image.withStamp stamp).bytes.take crcOffset = image.bytes.take crcOffset := by
  have hregion := image.region_le
  have hlength : (image.bytes.take crcOffset).length = crcOffset :=
    List.length_take_of_le (Nat.le_trans (by decide) hregion)
  rw [bytes_withStamp, List.append_assoc, List.take_left' hlength]

/-- A stamp leaves alone what is behind the header region. -/
theorem drop_withStamp :
    (image.withStamp stamp).bytes.drop regionSize = image.bytes.drop regionSize := by
  have hregion := image.region_le
  have hlength : (image.bytes.take crcOffset ++ stamp.encode).length = regionSize := by
    rw [List.length_append, List.length_take_of_le (Nat.le_trans (by decide) hregion)]
    rfl
  rw [bytes_withStamp, List.drop_left' hlength]

/-- A stamp leaves the payload as it is. -/
theorem payload_withStamp : (image.withStamp stamp).payload = image.payload := by
  rw [payload_eq_drop, payload_eq_drop, drop_withStamp]

/-- The stamp that was written is read back. -/
theorem storedStamp_withStamp : (image.withStamp stamp).storedStamp = stamp := by
  obtain ⟨bytes, hregion⟩ := image
  match bytes, hregion with
  | _ :: _ :: _ :: _ :: _ :: _ :: _ :: _ :: _ :: _ :: _ :: _ :: _, _ =>
    have hcrc := word32_bytes stamp.crc
    have hsize := word32_bytes stamp.size
    exact congrArg₂ Stamp.mk hcrc hsize

/-- Writing the stamp that is there changes nothing. -/
theorem withStamp_storedStamp : image.withStamp image.storedStamp = image := by
  apply eq_of_bytes_eq
  rw [bytes_withStamp]
  obtain ⟨bytes, hregion⟩ := image
  match bytes, hregion with
  | _ :: _ :: _ :: _ :: a :: b :: c :: d :: a' :: b' :: c' :: d' :: _, _ =>
    show _ ++ (le32 (word32 a b c d) ++ le32 (word32 a' b' c' d')) ++ _ = _
    rw [le32_word32, le32_word32]
    rfl

/-- Of two stamps the later one stays. -/
theorem withStamp_withStamp (later : Stamp) :
    (image.withStamp stamp).withStamp later = image.withStamp later := by
  apply eq_of_bytes_eq
  rw [bytes_withStamp, take_withStamp, drop_withStamp, bytes_withStamp]

/-- The stamp that an image asks for does not depend on the one that it has. -/
theorem expectedStamp_withStamp : (image.withStamp stamp).expectedStamp = image.expectedStamp := by
  unfold expectedStamp
  rw [payload_withStamp]

end Written

/-- Images that differ in nothing but their stamps are the same once they are stamped alike. -/
theorem withStamp_eq_of_agree {image other : Image} (stamp : Stamp)
    (hfront : image.bytes.take crcOffset = other.bytes.take crcOffset)
    (hbehind : image.bytes.drop regionSize = other.bytes.drop regionSize) :
    image.withStamp stamp = other.withStamp stamp := by
  apply eq_of_bytes_eq
  rw [bytes_withStamp, bytes_withStamp, hfront, hbehind]

/-- An image asks for a stamp by what is behind its header region. -/
theorem expectedStamp_eq_of_drop {image other : Image}
    (h : image.bytes.drop regionSize = other.bytes.drop regionSize) :
    image.expectedStamp = other.expectedStamp := by
  unfold expectedStamp
  rw [payload_eq_drop, payload_eq_drop, h]

/-! ## The check and the stamp -/

/-- The check compares the stamp that is there with the one that the image asks for. -/
theorem verify_eq_ok_iff_storedStamp (image : Image) :
    image.verify = .ok () ↔ image.storedStamp = image.expectedStamp := by
  unfold storedStamp expectedStamp
  rw [verify_eq_ok_iff, Stamp.mk.injEq, storedSize_eq_group, storedCrc_eq_group, and_comm]

/-- An image passes the check exactly if stamping leaves it as it is. -/
theorem verify_eq_ok_iff_stamp_eq (image : Image) : image.verify = .ok () ↔ image.stamp = image := by
  rw [verify_eq_ok_iff_storedStamp]
  unfold stamp
  constructor
  · intro hstored
    rw [← hstored, withStamp_storedStamp]
  · intro hfixed
    calc image.storedStamp
        = (image.withStamp image.expectedStamp).storedStamp := by rw [hfixed]
      _ = image.expectedStamp := storedStamp_withStamp image image.expectedStamp

/-- Stamping does not change the stamp that an image asks for. -/
theorem expectedStamp_stamp (image : Image) : image.stamp.expectedStamp = image.expectedStamp :=
  expectedStamp_withStamp image image.expectedStamp

/-- Stamping twice is stamping once. -/
theorem stamp_stamp (image : Image) : image.stamp.stamp = image.stamp := by
  show image.stamp.withStamp image.stamp.expectedStamp = _
  rw [expectedStamp_stamp]
  exact withStamp_withStamp image _ _

/-- A stamped image passes the check. -/
theorem verify_stamp (image : Image) : image.stamp.verify = .ok () :=
  image.stamp.verify_eq_ok_iff_stamp_eq.mpr image.stamp_stamp

/-- Stamping leaves the length as it is. -/
theorem length_stamp (image : Image) : image.stamp.bytes.length = image.bytes.length :=
  length_withStamp image image.expectedStamp

/-! ## Byte strings that are images, and those that are not -/

/-- The operations on the bytes of an image are those on the image. -/
structure Agrees (bytes : Bytes) (image : Image) : Prop where
  ofBytes_eq : ofBytes bytes = .ok image
  imageStamp_eq : bytes.imageStamp = .ok image.expectedStamp
  stamped_eq : bytes.stamped = .ok image.stamp.bytes
  stampInPlace_eq : bytes.stampInPlace = (.ok image.expectedStamp, image.stamp.bytes)
  verifyImage_eq : bytes.verifyImage = image.verify

/-- Bytes that make an image are treated as this image. -/
theorem agrees_of_ofBytes {bytes : Bytes} {image : Image} (h : ofBytes bytes = .ok image) :
    Agrees bytes image where
  ofBytes_eq := h
  imageStamp_eq := by
    unfold imageStamp
    rw [h]
    rfl
  stamped_eq := by
    unfold stamped
    rw [h]
    rfl
  stampInPlace_eq := by
    unfold stampInPlace
    rw [h]
  verifyImage_eq := by
    unfold verifyImage
    rw [h]
    rfl

/-- The bytes of an image are treated as the image. -/
theorem agrees_bytes (image : Image) : Agrees image.bytes image :=
  agrees_of_ofBytes (ofBytes_of_le image.region_le)

/-- What is too short is refused by each of the operations, and a buffer keeps its bytes. -/
structure Refused (bytes : Bytes) (error : Error) : Prop where
  ofBytes_eq : ofBytes bytes = .error error
  imageStamp_eq : bytes.imageStamp = .error error
  stamped_eq : bytes.stamped = .error error
  stampInPlace_eq : bytes.stampInPlace = (.error error, bytes)
  verifyImage_eq : bytes.verifyImage = .error error

/-- What makes no image is refused with one error, whatever is asked for. -/
theorem refused_of_ofBytes {bytes : Bytes} {error : Error} (h : ofBytes bytes = .error error) :
    Refused bytes error where
  ofBytes_eq := h
  imageStamp_eq := by
    unfold imageStamp
    rw [h]
    rfl
  stamped_eq := by
    unfold stamped
    rw [h]
    rfl
  stampInPlace_eq := by
    unfold stampInPlace
    rw [h]
  verifyImage_eq := by
    unfold verifyImage
    rw [h]
    rfl

/-- What is shorter than a header region is refused for its length. -/
theorem refused_of_lt {bytes : Bytes} (h : bytes.length < regionSize) :
    Refused bytes (.invalidImage (.short bytes.length regionSize)) :=
  refused_of_ofBytes (ofBytes_of_lt h)

/-- A byte string passes the check exactly if stamping leaves it as it is. -/
theorem verifyImage_eq_ok_iff (bytes : Bytes) :
    bytes.verifyImage = .ok () ↔ bytes.stamped = .ok bytes := by
  rcases Nat.lt_or_ge bytes.length regionSize with hshort | hregion
  · have hrefused := refused_of_lt hshort
    rw [hrefused.verifyImage_eq, hrefused.stamped_eq]
    constructor <;> intro h <;> cases h
  · have hagrees := agrees_bytes ⟨bytes, hregion⟩
    rw [hagrees.verifyImage_eq, hagrees.stamped_eq, verify_eq_ok_iff_stamp_eq, Except.ok.injEq]
    exact ⟨congrArg Image.bytes, fun h => eq_of_bytes_eq h⟩

/-- What stamping does to the bytes of an image, as a copy, in place and in a loaded image: checksum
and size of what is behind the header region are written to their eight bytes, and nothing else
changes. -/
structure Stamps (bytes : Bytes) (stamp : Stamp) (stamped : Bytes) : Prop where
  imageStamp_eq : bytes.imageStamp = .ok stamp
  stamped_eq : bytes.stamped = .ok stamped
  stampInPlace_eq : bytes.stampInPlace = (.ok stamp, stamped)
  image_eq : ∃ image, ofBytes bytes = .ok image ∧ image.expectedStamp = stamp ∧
    image.stamp.bytes = stamped
  crc_eq : stamp.crc = Checksum.ofBytes (bytes.drop regionSize)
  size_eq : stamp.size = UInt32.ofNat (bytes.length - regionSize)
  bytes_eq : stamped = bytes.take crcOffset ++ (le32 stamp.crc ++ le32 stamp.size) ++
    bytes.drop regionSize
  length_eq : stamped.length = bytes.length
  take_eq : stamped.take crcOffset = bytes.take crcOffset
  drop_eq : stamped.drop regionSize = bytes.drop regionSize

/-- All ways of stamping an image come to the same bytes. -/
theorem stamps_bytes (image : Image) :
    Stamps image.bytes image.expectedStamp image.stamp.bytes where
  imageStamp_eq := image.agrees_bytes.imageStamp_eq
  stamped_eq := image.agrees_bytes.stamped_eq
  stampInPlace_eq := image.agrees_bytes.stampInPlace_eq
  image_eq := ⟨image, image.agrees_bytes.ofBytes_eq, rfl, rfl⟩
  crc_eq := by
    rw [← payload_eq_drop]
    rfl
  size_eq := by
    rw [← List.length_drop, ← payload_eq_drop]
    rfl
  bytes_eq := image.bytes_withStamp image.expectedStamp
  length_eq := image.length_stamp
  take_eq := image.take_withStamp image.expectedStamp
  drop_eq := image.drop_withStamp image.expectedStamp

/-- A byte string passes the check exactly if stamping leaves it as it is. Every image can be
stamped; the check then passes, and stamping once more changes nothing. Images that differ in
nothing but the bytes of the stamp become the same. What is too short for a header region is refused
throughout. -/
theorem verified_iff_stamp_fixed :
    (∀ bytes : Bytes, bytes.verifyImage = .ok () ↔ bytes.stamped = .ok bytes) ∧
    (∀ bytes : Bytes, regionSize ≤ bytes.length →
      ∃ stamp stamped, Stamps bytes stamp stamped ∧ stamped.verifyImage = .ok () ∧
        Stamps stamped stamp stamped) ∧
    (∀ bytes other : Bytes, regionSize ≤ bytes.length → bytes.length = other.length →
      bytes.take crcOffset = other.take crcOffset → bytes.drop regionSize = other.drop regionSize →
      bytes.stamped = other.stamped ∧ bytes.stampInPlace = other.stampInPlace) ∧
    (∀ bytes : Bytes, bytes.length < regionSize →
      Refused bytes (.invalidImage (.short bytes.length regionSize))) := by
  refine ⟨verifyImage_eq_ok_iff, ?_, ?_, fun bytes => refused_of_lt⟩
  · intro bytes hregion
    let image : Image := ⟨bytes, hregion⟩
    have hagain := image.stamp.stamps_bytes
    rw [expectedStamp_stamp, stamp_stamp] at hagain
    refine ⟨image.expectedStamp, image.stamp.bytes, image.stamps_bytes, ?_, hagain⟩
    rw [image.stamp.agrees_bytes.verifyImage_eq, verify_stamp]
  · intro bytes other hregion hlength hfront hbehind
    let image : Image := ⟨bytes, hregion⟩
    let changed : Image := ⟨other, hlength ▸ hregion⟩
    have hexpected : image.expectedStamp = changed.expectedStamp := expectedStamp_eq_of_drop hbehind
    have hstamp : image.stamp = changed.stamp := by
      unfold stamp
      rw [hexpected]
      exact withStamp_eq_of_agree _ hfront hbehind
    rw [image.agrees_bytes.stamped_eq, image.agrees_bytes.stampInPlace_eq,
      changed.agrees_bytes.stamped_eq, changed.agrees_bytes.stampInPlace_eq, hstamp, hexpected]
    exact ⟨rfl, rfl⟩

/-- An image of two bytes of payload, another that differs in its stamp, and a byte string that
lacks one byte of a header region. -/
theorem verified_iff_stamp_fixed_two_bytes :
    (∃ stamped, Bytes.stamped (List.replicate 14 7) = .ok stamped ∧ stamped.verifyImage = .ok ()) ∧
    Bytes.stamped (List.replicate 14 7) =
      Bytes.stamped (List.replicate 4 7 ++ List.replicate 8 0 ++ [7, 7]) ∧
    Refused (List.replicate 11 7) (.invalidImage (.short 11 12)) := by
  obtain ⟨_, hstamps, hagree, hshort⟩ := verified_iff_stamp_fixed
  refine ⟨?_, ?_, hshort (List.replicate 11 7) (by decide)⟩
  · obtain ⟨_, stamped, hstamped, hverified, _⟩ := hstamps (List.replicate 14 7) (by decide)
    exact ⟨stamped, hstamped.stamped_eq, hverified⟩
  · exact (hagree _ (List.replicate 4 7 ++ List.replicate 8 0 ++ [7, 7]) (by decide) rfl rfl rfl).1

end Reflash.Image
