import Reflash.Announcement
import Reflash.DeviceInfo
import Reflash.Proofs.Bytes.Reading

/-!
# Records of a fixed size

Announcements and device records are read field by field, after their size has been checked. The
fields have that size together, so the check decides alone: whatever has the size of a record is one,
and the end of the bytes is never met inside a field (`FixedSize.of_reader`).
-/

namespace Reflash

open Bytes Bytes.Reader

/-- Records of the kind that `decode` gives are told by their size and by nothing else. -/
structure FixedSize {α : Type} (decode : Bytes → Except Error α) (size : Nat) : Prop where
  ok_iff : ∀ data, (∃ record, decode data = .ok record) ↔ data.length = size
  refused : ∀ data, data.length ≠ size → decode data = .error (.malformedPayload size data.length)

/-- If the fields of a record fill its size then checking the size first is enough. -/
theorem FixedSize.of_reader {α : Type} {decode : Bytes → Except Error α} {reader : Reader α}
    {size : Nat} (hreads : reader.Reads size)
    (hdecode : ∀ data, decode data =
      if data.length ≠ size then .error (.malformedPayload size data.length)
      else
        match reader.value? data with
        | none => .error (.io .endOfData)
        | some record => .ok record) : FixedSize decode size := by
  have hrefused (data : Bytes) (h : data.length ≠ size) :
      decode data = .error (.malformedPayload size data.length) := by
    rw [hdecode, if_pos h]
  refine ⟨fun data => ⟨?_, ?_⟩, hrefused⟩
  · rintro ⟨record, hrecord⟩
    refine Decidable.byContradiction fun h => ?_
    rw [hrefused data h] at hrecord
    cases hrecord
  · intro h
    obtain ⟨record, hvalue⟩ := hreads.exists_value? (Nat.le_of_eq h.symm)
    refine ⟨record, ?_⟩
    rw [hdecode, if_neg (not_not_intro h), hvalue]

namespace Announcement

/-- The fields of an announcement fill its size. -/
theorem reads_reader : reader.Reads size :=
  reads_u32.bind fun _ => reads_u32.bind fun _ => reads_u32.bind fun _ => reads_pure _

/-- Announcements are told by their size. -/
theorem fixedSize_decode : FixedSize decode size := by
  refine .of_reader reads_reader fun data => ?_
  unfold decode
  cases reader.value? data <;> rfl

end Announcement

namespace DeviceInfo

/-- The fields of a device record fill its size. -/
theorem reads_reader : reader.Reads size :=
  reads_u32.bind fun _ => (reads_take versionWidth).bind fun _ => reads_u32.bind fun _ =>
    (reads_take nameWidth).bind fun _ => reads_u32.bind fun _ => reads_u32.bind fun _ =>
      reads_u32.bind fun _ => (reads_take gitShaWidth).bind fun _ => reads_pure _

/-- Device records are told by their size. -/
theorem fixedSize_decode : FixedSize decode size := by
  refine .of_reader reads_reader fun data => ?_
  unfold decode
  cases reader.value? data <;> rfl

/-- Whatever has the size of a record is one. -/
theorem exists_decode_eq_ok {data : Bytes} (h : data.length = size) :
    ∃ info, decode data = .ok info :=
  (fixedSize_decode.ok_iff data).mpr h

end DeviceInfo

end Reflash
