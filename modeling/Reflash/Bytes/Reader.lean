import Reflash.Bytes.LittleEndian

/-!
# Reading fixed-width fields

A reader takes a value from the front of a byte string and passes on the rest. It fails, and
gives nothing, when the bytes run out. Records are read field by field, in the order in which
they are packed.
-/

namespace Reflash.Bytes

/-- A computation that consumes bytes from the front and may run out of them. -/
abbrev Reader := StateT Bytes Option

namespace Reader

/-- The next `width` bytes. -/
def take (width : Nat) : Reader Bytes := fun bytes =>
  if width ≤ bytes.length then some (bytes.take width, bytes.drop width) else none

/-- The next 16-bit word. -/
def u16 : Reader UInt16
  | a :: b :: rest => some (word16 a b, rest)
  | _ => none

/-- The next 32-bit word. -/
def u32 : Reader UInt32
  | a :: b :: c :: d :: rest => some (word32 a b c d, rest)
  | _ => none

/-- The value read from the front of `bytes`, whatever follows it. -/
def value? {α : Type} (reader : Reader α) (bytes : Bytes) : Option α :=
  (reader.run bytes).map (·.1)

end Reader

end Reflash.Bytes
