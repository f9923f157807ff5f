import Reflash.Bytes.Basic

/-!
# Hexadecimal numerals

Lower-case numerals in base sixteen: `digits` without leading zeros, `word` with the mark `0x`
and all eight digits of a 32-bit word.
-/

namespace Reflash.Text.Hex

/-- The numeral of `n` without leading zeros. -/
def digits (n : Nat) : String :=
  String.ofList (Nat.toDigits 16 n)

/-- The numeral of `n` with zeros in front up to `width` digits. -/
def padded (width n : Nat) : String :=
  let numeral := Nat.toDigits 16 n
  String.ofList (List.replicate (width - numeral.length) '0' ++ numeral)

/-- A 32-bit word as `0x` and eight digits. -/
def word (w : UInt32) : String :=
  "0x" ++ padded 8 w.toNat

/-- A byte string as two digits for each byte. -/
def bytes (b : Bytes) : String :=
  String.join (b.map fun byte => padded 2 byte.toNat)

end Reflash.Text.Hex
