import Reflash.Proofs.Bytes.Words

/-!
# Readers that always succeed on enough bytes

A reader `Reads` a width if it never fails on so many bytes and leaves the ones behind them. Readers
one after the other read the sum of their widths, so a record that is read field by field is read
from as many bytes as its fields have together.
-/

namespace Reflash.Bytes.Reader

variable {α β : Type}

/-- The reader takes exactly so many bytes, whatever they are. -/
def Reads (reader : Reader α) (width : Nat) : Prop :=
  ∀ bytes, width ≤ bytes.length →
    ∃ value rest, reader bytes = some (value, rest) ∧ rest.length + width = bytes.length

/-- A field of a certain width is read from so many bytes. -/
theorem reads_take (width : Nat) : (take width).Reads width := by
  intro bytes hwidth
  refine ⟨bytes.take width, bytes.drop width, if_pos hwidth, ?_⟩
  rw [List.length_drop]
  exact Nat.sub_add_cancel hwidth

/-- A word of sixteen bits is read from two bytes. -/
theorem reads_u16 : u16.Reads 2 := by
  intro bytes hwidth
  match bytes with
  | a :: b :: rest => exact ⟨word16 a b, rest, rfl, rfl⟩

/-- A word of thirty-two bits is read from four bytes. -/
theorem reads_u32 : u32.Reads 4 := by
  intro bytes hwidth
  match bytes with
  | a :: b :: c :: d :: rest => exact ⟨word32 a b c d, rest, rfl, rfl⟩

/-- What is known already is read from no bytes at all. -/
theorem reads_pure (value : α) : (pure value : Reader α).Reads 0 := by
  intro bytes _
  exact ⟨value, bytes, rfl, rfl⟩

/-- One reader after another takes the bytes of both. -/
theorem Reads.bind {first : Reader α} {next : α → Reader β} {width others : Nat}
    (hfirst : first.Reads width) (hnext : ∀ value, (next value).Reads others) :
    (first >>= next).Reads (width + others) := by
  intro bytes hwidth
  obtain ⟨one, mid, hone, hmid⟩ := hfirst bytes (by omega)
  obtain ⟨value, rest, hvalue, hrest⟩ := hnext one mid (by omega)
  refine ⟨value, rest, ?_, by omega⟩
  show (first bytes).bind (fun read => next read.1 read.2) = some (value, rest)
  rw [hone]
  exact hvalue

/-- On enough bytes there is a value to be found. -/
theorem Reads.exists_value? {reader : Reader α} {width : Nat} (hreads : reader.Reads width)
    {bytes : Bytes} (hwidth : width ≤ bytes.length) : ∃ value, reader.value? bytes = some value := by
  obtain ⟨value, rest, hread, _⟩ := hreads bytes hwidth
  exact ⟨value, value?_eq_some_iff.mpr ⟨rest, hread⟩⟩

/-! ## What bytes begin with -/

section Fronts

variable (bytes : Bytes)

/-- Two bytes are a word. -/
theorem exists_eq_le16_append (h : 2 ≤ bytes.length) :
    ∃ word rest, bytes = le16 word ++ rest ∧ rest.length + 2 = bytes.length := by
  obtain ⟨word, rest, hread, hlength⟩ := reads_u16 bytes h
  exact ⟨word, rest, u16_eq_some_iff.mp hread, hlength⟩

/-- Four bytes are a word. -/
theorem exists_eq_le32_append (h : 4 ≤ bytes.length) :
    ∃ word rest, bytes = le32 word ++ rest ∧ rest.length + 4 = bytes.length := by
  obtain ⟨word, rest, hread, hlength⟩ := reads_u32 bytes h
  exact ⟨word, rest, u32_eq_some_iff.mp hread, hlength⟩

/-- Any number of bytes are a field of this width. -/
theorem exists_eq_field_append (width : Nat) (h : width ≤ bytes.length) :
    ∃ field rest, field.length = width ∧ bytes = field ++ rest ∧
      rest.length + width = bytes.length := by
  obtain ⟨field, rest, hread, hlength⟩ := reads_take width bytes h
  obtain ⟨hwidth, hbytes⟩ := take_eq_some_iff.mp hread
  exact ⟨field, rest, hwidth, hbytes, hlength⟩

end Fronts

end Reflash.Bytes.Reader
