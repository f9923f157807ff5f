import Reflash.Proofs.Bytes.Indexing
import Reflash.Proofs.Frame.Arrival

/-!
# Decoding by offsets

`decodeByIndex` decodes a frame by offsets that nothing is known of, the length in the preamble among
them: it may be any 32-bit word, and the offset where the payload ends is computed in machine words.
It never breaks off, and comes to what `decode` comes to (`run_decodeByIndex`).
-/

namespace Reflash.Frame

open Bytes Indexing

/-- The largest offset that a machine word can hold. -/
def maxOffset : Nat := 2 ^ 64 - 1

/-- The frame at the start of `data`, by offsets. The sum of preamble and payload stops at the largest
offset. -/
def decodeByIndex (data : Bytes) : Indexing Frame :=
  if data.length < Preamble.size then
    throw (.truncatedMessage Preamble.size data.length)
  else do
    let preamble ← readValue Preamble.reader data
    let actual := Checksum.ofBytes (← cut data 0 Preamble.coveredSize)
    if actual ≠ preamble.headerCrc then
      throw (.corruptMessage .header preamble.headerCrc actual)
    else
      let needed := min (Preamble.size + preamble.length.toNat) maxOffset
      if data.length < needed then
        throw (.truncatedMessage needed data.length)
      else do
        let payload ← cut data Preamble.size needed
        let actual := Checksum.ofBytes payload
        if actual ≠ preamble.payloadCrc then
          throw (.corruptMessage .payload preamble.payloadCrc actual)
        else return { toPreamble := preamble, payload }

/-- No length that a preamble can declare comes near the largest offset. -/
theorem needed_le_maxOffset (length : UInt32) : Preamble.size + length.toNat ≤ maxOffset := by
  have hlength := length.toNat_lt
  simp only [Preamble.size, maxOffset]
  omega

/-- Decoding by offsets never reaches past the end of its bytes. -/
theorem run_decodeByIndex (data : Bytes) : (decodeByIndex data).run = some (decode data) := by
  unfold decodeByIndex decode
  by_cases hsize : data.length < Preamble.size
  · rw [if_pos hsize, dif_pos hsize]
    rfl
  · have hcovered : Preamble.coveredSize ≤ data.length :=
      Nat.le_trans (by decide) (Nat.le_of_not_lt hsize)
    rw [if_neg hsize, dif_neg hsize, readValue, cut_eq (Nat.zero_le _) hcovered]
    cases Preamble.reader.value? data with
    | none => rfl
    | some preamble =>
        simp only [pure_bind, Nat.min_eq_left (needed_le_maxOffset preamble.length)]
        split
        · rfl
        · split
          · rfl
          · next hneeded =>
              rw [cut_eq (Nat.le_add_right _ _) (Nat.le_of_not_lt hneeded), pure_bind]
              split <;> rfl

/-- Decoding gives a frame, or finds bytes missing, or finds the frame corrupt. -/
theorem decode_outcomes (data : Bytes) :
    (∃ frame, decode data = .ok frame) ∨
    (∃ needed available, decode data = .error (.truncatedMessage needed available)) ∨
    (∃ part expected actual, decode data = .error (.corruptMessage part expected actual)) := by
  cases stage data with
  | preambleMissing hshort => exact .inr (.inl ⟨_, _, decode_of_short hshort⟩)
  | preambleDamaged p rest hdamaged => exact .inr (.inr ⟨_, _, _, decode_of_not_intact hdamaged⟩)
  | payloadMissing p rest hintact hmissing =>
      exact .inr (.inl ⟨_, _, decode_of_missing hintact hmissing⟩)
  | complete p rest hintact henough =>
      rcases judged_of_enough hintact henough with hframe | ⟨_, _, hcorrupt⟩
      · exact .inl hframe
      · exact .inr (.inr ⟨_, _, _, hcorrupt⟩)

end Reflash.Frame
