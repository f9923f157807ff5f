import Reflash.Bytes.Reader
import Reflash.Error

/-!
# Indexing without proofs

`slice` takes the proof that the part which it cuts out lies inside its bytes. Here parts are cut out
and overwritten by their offsets alone. A computation that does so has one end more than a value or a
refusal: where an offset is out of range it breaks off. That a computation does not break off is then
something to be proved of it, whatever the types of its arguments say.
-/

namespace Reflash

open Bytes

/-- A computation by offsets: it ends with a value or an error, or breaks off at an offset that is out
of range. -/
abbrev Indexing := ExceptT Error Option

namespace Indexing

variable {α : Type}

/-- The computation that breaks off. -/
def outOfRange : Indexing α :=
  ExceptT.mk none

/-- The bytes at offsets `start` up to, but not including, `stop`, if all of them are there. -/
def cut (bytes : Bytes) (start stop : Nat) : Indexing Bytes :=
  if h : start ≤ stop ∧ stop ≤ bytes.length then pure (bytes.slice start stop h.1 h.2)
  else outOfRange

/-- `bytes` with those at offsets `start` up to `stop` replaced, if all of them are there and `patch`
has just as many. -/
def paste (bytes : Bytes) (start stop : Nat) (patch : Bytes) : Indexing Bytes :=
  if start ≤ stop ∧ stop ≤ bytes.length ∧ patch.length = stop - start then
    pure (bytes.overwrite start patch)
  else outOfRange

/-- The little-endian word in the first four bytes, if there are so many. -/
def word (bytes : Bytes) : Indexing UInt32 :=
  match bytes with
  | a :: b :: c :: d :: _ => pure (word32 a b c d)
  | _ => outOfRange

/-- What a reader finds. A reader that runs out of bytes is refused; it does not break off. -/
def readValue (reader : Reader α) (bytes : Bytes) : Indexing α :=
  match reader.value? bytes with
  | some value => pure value
  | none => throw (.io .endOfData)

section InRange

variable {bytes : Bytes} {start stop : Nat}

/-- Within the bytes, what is cut out is the slice. -/
theorem cut_eq (hstart : start ≤ stop) (hstop : stop ≤ bytes.length) :
    cut bytes start stop = pure (bytes.slice start stop hstart hstop) :=
  dif_pos ⟨hstart, hstop⟩

/-- Within the bytes, a patch of the right length is written over them. -/
theorem paste_eq {patch : Bytes} (hstart : start ≤ stop) (hstop : stop ≤ bytes.length)
    (hpatch : patch.length = stop - start) :
    paste bytes start stop patch = pure (bytes.overwrite start patch) :=
  if_pos ⟨hstart, hstop, hpatch⟩

end InRange

end Indexing

end Reflash
