import Reflash.Bytes.Basic

/-!
# Little-endian words

Words are stored with their least significant byte first. `le16` and `le32` write a word,
`word16` and `word32` put one together again.
-/

namespace Reflash.Bytes

/-- The two bytes of a 16-bit word, low byte first. -/
def le16 (word : UInt16) : Bytes :=
  [word.toUInt8, (word >>> 8).toUInt8]

/-- The four bytes of a 32-bit word, low byte first. -/
def le32 (word : UInt32) : Bytes :=
  [word.toUInt8, (word >>> 8).toUInt8, (word >>> 16).toUInt8, (word >>> 24).toUInt8]

/-- The 16-bit word whose bytes are `a` and `b`, low byte first. -/
def word16 (a b : UInt8) : UInt16 :=
  a.toUInt16 ||| (b.toUInt16 <<< 8)

/-- The 32-bit word whose bytes are `a` to `d`, low byte first. -/
def word32 (a b c d : UInt8) : UInt32 :=
  a.toUInt32 ||| (b.toUInt32 <<< 8) ||| (c.toUInt32 <<< 16) ||| (d.toUInt32 <<< 24)

/-- A word of sixteen bits takes two bytes. -/
@[simp]
theorem length_le16 (word : UInt16) : (le16 word).length = 2 := rfl

/-- A word of thirty-two bits takes four bytes. -/
@[simp]
theorem length_le32 (word : UInt32) : (le32 word).length = 4 := rfl

end Reflash.Bytes
