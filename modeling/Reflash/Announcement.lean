import Reflash.Bytes.Reader
import Reflash.Checksum.Basic
import Reflash.Error

/-!
# Announcing an image

Before the pages of an image are streamed, the device is told how many bytes will follow and what
their checksum is. The announcement is three words, the first of which is reserved and always
zero.
-/

namespace Reflash

/-- What a device is told about the bytes to come. -/
structure Announcement where
  /-- The number of bytes that will follow. -/
  totalLength : UInt32
  /-- The checksum of those bytes. -/
  totalCrc : UInt32
  deriving DecidableEq, Repr

namespace Announcement

/-- The size of an announcement. -/
def size : Nat := 12

/-- The announcement of a payload. -/
def ofPayload (payload : Bytes) : Announcement :=
  { totalLength := UInt32.ofNat payload.length
    totalCrc := Checksum.ofBytes payload }

/-- The announcement as bytes. -/
def encode (a : Announcement) : Bytes :=
  Bytes.le32 0 ++ Bytes.le32 a.totalLength ++ Bytes.le32 a.totalCrc

/-- Reads the three words, of which the first is not looked at. -/
def reader : Bytes.Reader Announcement := do
  let _ ← Bytes.Reader.u32
  let totalLength ← Bytes.Reader.u32
  let totalCrc ← Bytes.Reader.u32
  return { totalLength, totalCrc }

/-- The announcement that `data` hold. -/
def decode (data : Bytes) : Except Error Announcement :=
  if data.length ≠ size then .error (.malformedPayload size data.length)
  else
    match reader.value? data with
    | none => .error (.io .endOfData)
    | some a => .ok a

/-- An announcement always has its full size. -/
@[simp]
theorem length_encode (a : Announcement) : a.encode.length = size := rfl

end Announcement

end Reflash
