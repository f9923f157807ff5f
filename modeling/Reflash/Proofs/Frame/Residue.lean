import Reflash.Proofs.Frame.Arrival
import Reflash.Proofs.Frame.Damage

/-!
# The residue of a frame

A preamble carries the checksum of its own first words at its end, so decoding could as well take
the checksum over the whole preamble and compare it with zero: `isCorrupt_header_iff` says that it
would come to the same, for any bytes that are long enough. `residue_law` puts this beside the law
about checksums that it comes from.
-/

namespace Reflash.Frame

open Bytes Checksum

/-- Behind an intact preamble nothing is reported of the header. -/
theorem not_isCorrupt_header_of_intact {p : Preamble} (h : p.Intact) (rest : Bytes) :
    ¬ IsCorrupt .header (p.encode ++ rest) := by
  rintro ⟨expected, actual, hcorrupt⟩
  rw [decode_of_intact h] at hcorrupt
  dsimp only at hcorrupt
  split at hcorrupt
  · cases hcorrupt
  · split at hcorrupt <;> cases hcorrupt

/-- The header of what is long enough is corrupt exactly if the checksum over the preamble is not
zero. -/
theorem isCorrupt_header_iff {data : Bytes} (hsize : Preamble.size ≤ data.length) :
    IsCorrupt .header data ↔ ofBytes (data.take Preamble.size) ≠ 0 := by
  refine ⟨?_, isCorrupt_header hsize⟩
  obtain ⟨p, rest, rfl⟩ := Preamble.exists_eq_encode_append hsize
  rw [List.take_left' (Preamble.length_encode p)]
  intro hcorrupt hzero
  exact not_isCorrupt_header_of_intact (p.ofBytes_encode_eq_zero_iff.mp hzero) rest hcorrupt

/-- Four bytes behind complete groups make the checksum of the whole zero if they are the checksum of
the groups, low byte first, and otherwise they do not. So decoding has nothing to say against the
header of any bytes that hold a preamble exactly if the checksum over this preamble is zero; this is
so for the frame of every request, and for a frame made by hand if the checksum of its header is that
of the words in front of it. -/
theorem residue_law :
    (∀ data trailer : Bytes, 4 ∣ data.length → trailer.length = 4 →
      (ofBytes (data ++ trailer) = 0 ↔ trailer = le32 (ofBytes data))) ∧
    (∀ data : Bytes, 16 ≤ data.length →
      ((∀ expected actual, decode data ≠ .error (.corruptMessage .header expected actual)) ↔
        ofBytes (data.take 16) = 0)) ∧
    (∀ (request : Request) (payload : Bytes), ofBytes ((request.encode payload).take 16) = 0) ∧
    (∀ frame : Frame, ofBytes (frame.encode.take 16) = 0 ↔
      ofBytes (le32 frame.typeId ++ le32 frame.length ++ le32 frame.payloadCrc) =
        frame.headerCrc) := by
  refine ⟨fun data trailer => ofBytes_append_eq_zero_iff, ?_, ofBytes_take_encode, ?_⟩
  · intro data hsize
    have hclear : ¬ IsCorrupt .header data ↔ ofBytes (data.take 16) = 0 :=
      (not_congr (isCorrupt_header_iff hsize)).trans not_not
    rw [← hclear]
    unfold IsCorrupt
    simp only [not_exists, ne_eq]
  · intro frame
    have hfront : frame.encode.take 16 = frame.toPreamble.encode :=
      List.take_left' (Preamble.length_encode _)
    rw [hfront]
    exact frame.toPreamble.ofBytes_encode_eq_zero_iff

/-- A page whose declared length is damaged: the checksum over its preamble is not zero, and so it is
not taken for a page with a payload that is missing. -/
theorem residue_law_damaged_length :
    let data : Bytes := [1, 2, 3, 4, 5, 6, 7, 8]
    let frame := Request.data.encode data
    let damaged := frame.flip 7 0x80
    4 ∣ data.length ∧ ofBytes (data ++ le32 (ofBytes data)) = 0 ∧
    16 ≤ frame.length ∧
    (∀ expected actual, decode frame ≠ .error (.corruptMessage .header expected actual)) ∧
    16 ≤ damaged.length ∧ ofBytes (damaged.take 16) ≠ 0 ∧
    ∃ expected actual, decode damaged = .error (.corruptMessage .header expected actual) := by
  intro data frame damaged
  obtain ⟨happend, hheader, hframe, _⟩ := residue_law
  have hgroups : 4 ∣ data.length := ⟨2, rfl⟩
  have hsize : 16 ≤ frame.length := by decide
  have hdamaged : 16 ≤ damaged.length := by decide
  have hresidue : ofBytes (damaged.take 16) ≠ 0 := by decide +kernel
  have hfound : ¬ ∀ expected actual,
      decode damaged ≠ .error (.corruptMessage .header expected actual) :=
    fun hnone => hresidue ((hheader damaged hdamaged).mp hnone)
  refine ⟨hgroups, (happend _ _ hgroups (length_le32 _)).mpr rfl, hsize,
    (hheader frame hsize).mpr (hframe .data data), hdamaged, hresidue, ?_⟩
  simpa only [not_forall, ne_eq, not_not] using hfound

end Reflash.Frame
