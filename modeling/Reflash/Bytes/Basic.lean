/-!
# Byte strings

Everything that travels over the link or lies in an image is a list of octets. `Bytes.slice`
cuts a part out of a byte string and asks for the proof that the part lies inside it, so no
cut can reach past the end. `Bytes.blocks` splits a byte string into blocks of a given size,
of which only the last may be shorter.
-/

namespace Reflash

/-- A byte string. -/
abbrev Bytes := List UInt8

namespace Bytes

/-- The bytes at offsets `start` up to, but not including, `stop`. -/
def slice (bytes : Bytes) (start stop : Nat) (_ : start ≤ stop) (_ : stop ≤ bytes.length) :
    Bytes :=
  (bytes.drop start).take (stop - start)

/-- A slice has as many bytes as lie between its bounds. -/
@[simp]
theorem length_slice (bytes : Bytes) (start stop : Nat) (hstart : start ≤ stop)
    (hstop : stop ≤ bytes.length) :
    (bytes.slice start stop hstart hstop).length = stop - start := by
  simp [slice]
  omega

/-- `bytes` with the part that starts at `offset` overwritten by `patch`. The length stays the
same as long as the patch ends inside `bytes`. -/
def overwrite (bytes : Bytes) (offset : Nat) (patch : Bytes) : Bytes :=
  bytes.take offset ++ patch ++ bytes.drop (offset + patch.length)

/-- Overwriting bytes leaves the length as it is. -/
theorem length_overwrite (bytes : Bytes) (offset : Nat) (patch : Bytes)
    (h : offset + patch.length ≤ bytes.length) :
    (bytes.overwrite offset patch).length = bytes.length := by
  simp [overwrite]
  omega

/-- `bytes` with the bits of `mask` flipped in the byte at `offset`; an offset past the end
changes nothing. -/
def flip (bytes : Bytes) (offset : Nat) (mask : UInt8) : Bytes :=
  bytes.modify offset (· ^^^ mask)

/-- Flipping bits leaves the length as it is. -/
@[simp]
theorem length_flip (bytes : Bytes) (offset : Nat) (mask : UInt8) :
    (bytes.flip offset mask).length = bytes.length := by
  simp [flip]

/-- `bytes` with one bit flipped. Bits are counted from the lowest bit of the first byte. -/
def flipBit (bytes : Bytes) (bit : Nat) : Bytes :=
  bytes.flip (bit / 8) ((1 : UInt8) <<< (bit % 8).toUInt8)

/-- Consecutive blocks of `size` bytes. Only the last block may be shorter, and none is empty. -/
def blocks (size : Nat) (bytes : Bytes) (positive : 0 < size := by decide) : List Bytes :=
  if bytes.isEmpty then []
  else bytes.take size :: blocks size (bytes.drop size) positive
termination_by bytes.length
decreasing_by
  cases bytes with
  | nil => simp at *
  | cons b rest => simp; omega

end Bytes

end Reflash
