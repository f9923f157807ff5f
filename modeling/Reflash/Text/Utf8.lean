import Reflash.Bytes.Basic

/-!
# Reading text that may be damaged

`decode` reads UTF-8 and never fails: every maximal part of an ill-formed sequence becomes one
replacement character. It is a machine that takes one byte at a time. Between characters it waits
for a lead byte; after a lead byte it knows how many continuation bytes are owed and in which
range the next one has to lie, which is what rules out overlong forms, surrogates and values
above `0x10FFFF`. A byte that does not continue the character begun is looked at again as the
start of the next one.
-/

namespace Reflash.Text.Utf8

/-- The character that stands for what cannot be read. -/
def replacement : Char := '\uFFFD'

/-- Where the machine stands between two bytes. -/
inductive State where
  /-- Between characters. -/
  | start
  /-- Inside a character whose bits so far are `value`: `owed + 1` continuation bytes are
  missing, the next of them between `low` and `high`. -/
  | inside (value owed : Nat) (low high : UInt8)
  deriving DecidableEq, Repr

/-- What a byte gives between characters. -/
def enter (byte : UInt8) : List Char × State :=
  if byte < 0x80 then ([Char.ofNat byte.toNat], .start)
  else if byte < 0xC2 then ([replacement], .start)
  else if byte < 0xE0 then ([], .inside (byte.toNat % 32) 0 0x80 0xBF)
  else if byte = 0xE0 then ([], .inside 0 1 0xA0 0xBF)
  else if byte = 0xED then ([], .inside 13 1 0x80 0x9F)
  else if byte < 0xF0 then ([], .inside (byte.toNat % 16) 1 0x80 0xBF)
  else if byte = 0xF0 then ([], .inside 0 2 0x90 0xBF)
  else if byte < 0xF4 then ([], .inside (byte.toNat % 8) 2 0x80 0xBF)
  else if byte = 0xF4 then ([], .inside 4 2 0x80 0x8F)
  else ([replacement], .start)

/-- What a byte gives in any state. -/
def step : State → UInt8 → List Char × State
  | .start, byte => enter byte
  | .inside value owed low high, byte =>
    if low ≤ byte ∧ byte ≤ high then
      let value := value * 64 + byte.toNat % 64
      match owed with
      | 0 => ([Char.ofNat value], .start)
      | owed + 1 => ([], .inside value owed 0x80 0xBF)
    else
      let (chars, state) := enter byte
      (replacement :: chars, state)

/-- What the end of the bytes gives: a character that is still open cannot be read. -/
def finish : State → List Char
  | .start => []
  | .inside .. => [replacement]

/-- The characters read from `bytes` in a given state. -/
def decodeFrom (state : State) : Bytes → List Char
  | [] => finish state
  | byte :: rest =>
    let (chars, state) := step state byte
    chars ++ decodeFrom state rest

/-- The text that `bytes` hold, with a replacement character for each part that is not UTF-8. -/
def decode (bytes : Bytes) : String :=
  String.ofList (decodeFrom .start bytes)

/-- The UTF-8 form of a text. -/
def encode (text : String) : Bytes :=
  text.toUTF8.data.toList

end Reflash.Text.Utf8
