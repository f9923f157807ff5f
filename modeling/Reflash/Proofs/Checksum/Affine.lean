import Reflash.Proofs.Checksum.Damage

/-!
# The checksum is affine

Byte strings of one length are added without carry, byte by byte, and so are their groups
(`group_xor`). The register is linear in what it starts from and what is fed together
(`update_xor`), short last group included. A checksum starts from a register that is not clear, so
by itself it is linear only up to a constant, which sums of three byte strings do away with.

So what an error does to a checksum is the same for all data: it is what the error does to a clear
register (`ofBytes_xor`).
-/

namespace Reflash

namespace Bytes

/-- Byte strings added without carry; what one is longer than the other is cut off. -/
def xor (bytes other : Bytes) : Bytes :=
  List.zipWith (· ^^^ ·) bytes other

section Xor

variable {bytes other : Bytes}

/-- The difference of byte strings of one length has this length. -/
theorem length_xor (h : bytes.length = other.length) :
    (bytes.xor other).length = bytes.length := by
  unfold xor
  rw [List.length_zipWith, ← h, Nat.min_self]

/-- Byte strings of one length are put together byte by byte. -/
theorem byteAt_xor (h : bytes.length = other.length) (offset : Nat) :
    (bytes.xor other).byteAt offset = bytes.byteAt offset ^^^ other.byteAt offset := by
  unfold byteAt xor
  rw [List.getElem?_zipWith]
  rcases Nat.lt_or_ge offset bytes.length with hin | hbehind
  · rw [List.getElem?_eq_getElem hin, List.getElem?_eq_getElem (h ▸ hin)]
    rfl
  · rw [List.getElem?_eq_none hbehind, List.getElem?_eq_none (h ▸ hbehind)]
    rfl

/-- Groups are added like bytes, also the last one if bytes of it are missing. -/
theorem group_xor (h : bytes.length = other.length) (i : Nat) :
    (bytes.xor other).group i = bytes.group i ^^^ other.group i := by
  unfold group
  rw [byteAt_xor h, byteAt_xor h, byteAt_xor h, byteAt_xor h, word32_xor]

end Xor

end Bytes

namespace Checksum

open Bytes

/-- The register is linear in what it starts from and what is fed. -/
theorem update_xor (register other : UInt32) {bytes noise : Bytes}
    (h : bytes.length = noise.length) :
    update (register ^^^ other) (bytes.xor noise) = update register bytes ^^^ update other noise := by
  have hgroups : (bytes.xor noise).group = fun i => bytes.group i ^^^ noise.group i :=
    funext (group_xor h)
  have hcount : groupCount (bytes.xor noise) = bytes.groupCount := groupCount_congr (length_xor h)
  have hnoise : noise.groupCount = bytes.groupCount := groupCount_congr h.symm
  rw [update_eq_feedGroups, update_eq_feedGroups, update_eq_feedGroups, hgroups, hcount, hnoise,
    feedGroups_xor]

/-- An error changes the checksum by what it makes of a clear register. -/
theorem ofBytes_xor {data error : Bytes} (h : data.length = error.length) :
    ofBytes (data.xor error) = ofBytes data ^^^ update 0 error := by
  have hlinear := update_xor seed 0 h
  rwa [UInt32.xor_zero] at hlinear

/-- Whether an error goes unnoticed is decided by what it makes of a clear register. -/
theorem ofBytes_xor_eq_iff {data error : Bytes} (h : data.length = error.length) :
    ofBytes (data.xor error) = ofBytes data ↔ update 0 error = 0 := by
  rw [ofBytes_xor h]
  constructor
  · exact eq_zero_of_xor_eq
  · intro hclear
    rw [hclear, UInt32.xor_zero]

/-- The checksum of the sum of three byte strings of one length is the sum of their checksums. So an
error goes unnoticed in all data of its length or in none, and which of the two can be seen from the
error alone. -/
theorem checksum_affine :
    (∀ a b c : Bytes, a.length = b.length → b.length = c.length →
      ofBytes ((a.xor b).xor c) = ofBytes a ^^^ ofBytes b ^^^ ofBytes c) ∧
    (∀ data error : Bytes, data.length = error.length →
      (ofBytes (data.xor error) = ofBytes data ↔ update 0 error = 0)) ∧
    (∀ data other error : Bytes, data.length = error.length → other.length = error.length →
      (ofBytes (data.xor error) = ofBytes data ↔ ofBytes (other.xor error) = ofBytes other)) := by
  refine ⟨?_, fun data error => ofBytes_xor_eq_iff, ?_⟩
  · intro a b c hab hbc
    have hseed : seed ^^^ seed ^^^ seed = seed := by decide
    have hsum : (a.xor b).length = c.length := by rw [length_xor hab, hab, hbc]
    calc ofBytes ((a.xor b).xor c)
        = update (seed ^^^ seed ^^^ seed) ((a.xor b).xor c) := by rw [hseed]; rfl
      _ = update (seed ^^^ seed) (a.xor b) ^^^ ofBytes c := update_xor _ _ hsum
      _ = ofBytes a ^^^ ofBytes b ^^^ ofBytes c := by rw [update_xor _ _ hab]; rfl
  · intro data other error hdata hother
    rw [ofBytes_xor_eq_iff hdata, ofBytes_xor_eq_iff hother]

/-- An error in five bytes, the last of them alone in its group, that no data show. -/
theorem checksum_affine_unnoticed :
    let data : Bytes := [1, 2, 3, 4, 5]
    let other : Bytes := [0xFF, 0, 0xFF, 0, 0xFF]
    let error : Bytes := [0xDA, 0xAC, 0xF1, 0xCB, 1]
    data.length = other.length ∧ other.length = error.length ∧ data.length = error.length ∧
    ofBytes ((data.xor other).xor error) = ofBytes data ^^^ ofBytes other ^^^ ofBytes error ∧
    data.xor error ≠ data ∧ ofBytes (data.xor error) = ofBytes data ∧
    ofBytes (other.xor error) = ofBytes other := by
  intro data other error
  obtain ⟨hsum, hclear, hsame⟩ := checksum_affine
  have hunnoticed : ofBytes (data.xor error) = ofBytes data :=
    (hclear data error rfl).mpr (by decide +kernel)
  exact ⟨rfl, rfl, rfl, hsum data other error rfl rfl, by decide, hunnoticed,
    (hsame data other error rfl rfl).mp hunnoticed⟩

end Checksum

end Reflash
