import Reflash.Bytes.Basic

/-!
# The 32-bit checksum

The checksum that images and frames carry is computed by a 32-bit shift register with the
generator polynomial `0x04C11DB7`, most significant bit first, started with all bits set and not
inverted at the end. Bytes enter in groups of four; a short last group is filled up with zeros.

A group is packed with its first byte on top, and its four lanes are folded into the register
from the lowest lane up. `table` holds the effect of eight clocks on each value of the top byte,
so a lane costs one look-up. `update` continues from any register value, which lets a checksum be
carried across several byte strings; `ofBytes` starts it from `seed`.
-/

namespace Reflash.Checksum

/-- The generator polynomial, without its leading term. -/
def polynomial : UInt32 := 0x04C11DB7

/-- The register before the first group. -/
def seed : UInt32 := 0xFFFFFFFF

/-- One clock of the register: shift left by one bit, and subtract the polynomial if a bit fell
off the top. -/
def clock (register : UInt32) : UInt32 :=
  if register &&& 0x80000000 = 0 then register <<< 1 else (register <<< 1) ^^^ polynomial

/-- The register after a number of clocks. -/
def clocks : Nat → UInt32 → UInt32
  | 0, register => register
  | n + 1, register => clocks n (clock register)

/-- What eight clocks make of a register that holds nothing but `top` in its highest byte. -/
def entry (top : UInt8) : UInt32 :=
  clocks 8 (top.toUInt32 <<< 24)

/-- The entries for every byte, computed once. -/
def table : Vector UInt32 256 :=
  Vector.ofFn fun i => entry (UInt8.ofNat i.val)

/-- The entry for a byte, looked up. -/
def lookup (top : UInt8) : UInt32 :=
  have inRange : top.toNat < 256 := top.toNat_lt
  table[top.toNat]

/-- What the table holds for a byte is what is calculated for it. -/
theorem lookup_eq_entry (top : UInt8) : lookup top = entry top := by
  simp [lookup, table]

/-- Folds the low byte of `lane` into the register. The other bits of `lane` have no effect. -/
def fold (register lane : UInt32) : UInt32 :=
  (register <<< 8) ^^^ lookup ((register >>> 24) ^^^ lane).toUInt8

/-- The word that has `a` in its highest byte and `d` in its lowest. -/
def pack (a b c d : UInt8) : UInt32 :=
  (a.toUInt32 <<< 24) ||| (b.toUInt32 <<< 16) ||| (c.toUInt32 <<< 8) ||| d.toUInt32

/-- Folds the four lanes of a packed group, lowest lane first. -/
def absorb (register word : UInt32) : UInt32 :=
  fold (fold (fold (fold register word) (word >>> 8)) (word >>> 16)) (word >>> 24)

/-- The register after all of `bytes`, in groups of four; missing bytes of the last group count
as zero. -/
def update (register : UInt32) : Bytes → UInt32
  | a :: b :: c :: d :: rest => update (absorb register (pack a b c d)) rest
  | [a, b, c] => absorb register (pack a b c 0)
  | [a, b] => absorb register (pack a b 0 0)
  | [a] => absorb register (pack a 0 0 0)
  | [] => register

/-- The checksum of a byte string. -/
def ofBytes (bytes : Bytes) : UInt32 :=
  update seed bytes

end Reflash.Checksum
