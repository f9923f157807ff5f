import Reflash.Bytes.LittleEndian
import Reflash.Checksum.Basic
import Reflash.Error
import Reflash.Text.Quoted

/-!
# Firmware images

An image is a byte string that starts with a header region of twelve bytes: a word that belongs to
the linker, the checksum of the payload, and the size of the payload. Everything after the region
is payload. Checksum and size are stamped in after the build and are not part of what they cover,
so stamping changes nothing that a stamp depends on.

The type `Image` holds the proof that the region is there, so reading the two words and stamping
cannot fail. The functions on byte strings refuse what is too short to be an image.
-/

namespace Reflash

/-- A byte string with a header region. -/
structure Image where
  /-- The whole image, header region included. -/
  bytes : Bytes
  /-- The header region is complete. -/
  region_le : 12 ≤ bytes.length
  deriving DecidableEq

/-- What is stamped into the header region. -/
structure Stamp where
  /-- The checksum of the payload. -/
  crc : UInt32
  /-- The size of the payload. -/
  size : UInt32
  deriving DecidableEq, Repr

/-- The two words of a stamp as they lie in the header region. -/
def Stamp.encode (stamp : Stamp) : Bytes :=
  Bytes.le32 stamp.crc ++ Bytes.le32 stamp.size

namespace Image

/-- The size of the header region. -/
def regionSize : Nat := 12

/-- Where the checksum lies. -/
def crcOffset : Nat := 4

/-- Where the size lies. -/
def sizeOffset : Nat := 8

/-- The image that a byte string is, if it has a header region. -/
def ofBytes (bytes : Bytes) : Except Error Image :=
  if h : 12 ≤ bytes.length then .ok ⟨bytes, h⟩
  else .error (.invalidImage (.short bytes.length regionSize))

/-- What has a header region is an image. -/
theorem ofBytes_of_le {bytes : Bytes} (h : regionSize ≤ bytes.length) :
    ofBytes bytes = .ok ⟨bytes, h⟩ := by
  have hregion : 12 ≤ bytes.length := h
  unfold ofBytes
  exact dif_pos hregion

/-- What is too short for a header region is not. -/
theorem ofBytes_of_lt {bytes : Bytes} (h : bytes.length < regionSize) :
    ofBytes bytes = .error (.invalidImage (.short bytes.length regionSize)) := by
  have hregion : ¬ 12 ≤ bytes.length := Nat.not_le_of_lt h
  unfold ofBytes
  exact dif_neg hregion

/-- The bytes after the header region. -/
def payload (image : Image) : Bytes :=
  image.bytes.slice regionSize image.bytes.length image.region_le (Nat.le_refl _)

/-- The payload is everything behind the header region. -/
theorem payload_eq_drop (image : Image) : image.payload = image.bytes.drop regionSize := by
  unfold payload Bytes.slice
  rw [List.take_of_length_le (Nat.le_of_eq List.length_drop)]

/-- The little-endian word at an offset inside the header region. -/
def wordAt (image : Image) (offset : Nat) (h : offset + 4 ≤ regionSize) : UInt32 :=
  have := image.region_le
  have : offset + 4 ≤ image.bytes.length := Nat.le_trans h this
  Bytes.word32 image.bytes[offset] image.bytes[offset + 1] image.bytes[offset + 2]
    image.bytes[offset + 3]

/-- The checksum in the header region. -/
def storedCrc (image : Image) : UInt32 :=
  image.wordAt crcOffset (by decide)

/-- The size in the header region. -/
def storedSize (image : Image) : UInt32 :=
  image.wordAt sizeOffset (by decide)

/-- The stamp that the payload asks for. The size has 32 bits, so this is meant for payloads
below 4 GiB. -/
def expectedStamp (image : Image) : Stamp :=
  { crc := Checksum.ofBytes image.payload
    size := UInt32.ofNat image.payload.length }

/-- The image with `stamp` in its header region. -/
def withStamp (image : Image) (stamp : Stamp) : Image where
  bytes := image.bytes.overwrite crcOffset stamp.encode
  region_le := by
    have := image.region_le
    rw [Bytes.length_overwrite]
    · exact this
    · simpa [crcOffset, Stamp.encode] using this

/-- The image with the stamp that its payload asks for. -/
def stamp (image : Image) : Image :=
  image.withStamp image.expectedStamp

/-- Whether the stored stamp is the one that the payload asks for. The size is compared first. -/
def verify (image : Image) : Except Error Unit :=
  let expected := image.expectedStamp
  if image.storedSize ≠ expected.size then
    .error (.invalidImage (.sizeMismatch image.storedSize expected.size))
  else if image.storedCrc ≠ expected.crc then
    .error (.crcMismatch image.storedCrc expected.crc)
  else .ok ()

/-- The description of an image. -/
def describe (image : Image) : String :=
  Text.describeFields "FirmwareImage" [
    ("stored_crc", Text.Hex.word image.storedCrc),
    ("stored_size", toString image.storedSize),
    ("data_len", toString image.bytes.length)] false

end Image

namespace Bytes

/-- The payload of the image that a byte string is. -/
def imagePayload (bytes : Bytes) : Except Error Bytes :=
  (Image.ofBytes bytes).map Image.payload

/-- The stamp that the image asks for. -/
def imageStamp (bytes : Bytes) : Except Error Stamp :=
  (Image.ofBytes bytes).map Image.expectedStamp

/-- A stamped copy of the image. -/
def stamped (bytes : Bytes) : Except Error Bytes :=
  (Image.ofBytes bytes).map fun image => image.stamp.bytes

/-- Stamps a buffer where it lies: the stamp that was written, and the buffer afterwards. A buffer
that is no image stays as it is. -/
def stampInPlace (bytes : Bytes) : Except Error Stamp × Bytes :=
  match Image.ofBytes bytes with
  | .error e => (.error e, bytes)
  | .ok image => (.ok image.expectedStamp, image.stamp.bytes)

/-- Whether a byte string is a correctly stamped image. -/
def verifyImage (bytes : Bytes) : Except Error Unit :=
  (Image.ofBytes bytes).bind Image.verify

end Bytes

end Reflash
