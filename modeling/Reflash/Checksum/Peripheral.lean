import Reflash.Bytes.LittleEndian
import Reflash.Checksum.Basic

/-!
# The checksum as the hardware computes it

A device computes the checksum with a peripheral that takes whole 32-bit words. Each group of
four bytes is loaded as a little-endian word, added to the register without carry, and clocked
through bit by bit. `peripheral` is this machine, with no table and no lanes.
-/

namespace Reflash.Checksum

/-- Adds one word to the register and clocks it through. -/
def feed (register word : UInt32) : UInt32 :=
  clocks 32 (register ^^^ word)

/-- The register after all of `bytes`, one little-endian word at a time; missing bytes of the
last word count as zero. -/
def feedAll (register : UInt32) : Bytes → UInt32
  | a :: b :: c :: d :: rest => feedAll (feed register (Bytes.word32 a b c d)) rest
  | [a, b, c] => feed register (Bytes.word32 a b c 0)
  | [a, b] => feed register (Bytes.word32 a b 0 0)
  | [a] => feed register (Bytes.word32 a 0 0 0)
  | [] => register

/-- The checksum that the peripheral holds after `bytes`. -/
def peripheral (bytes : Bytes) : UInt32 :=
  feedAll seed bytes

end Reflash.Checksum
