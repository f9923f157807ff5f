import Reflash.Proofs.Checksum.Damage

/-!
# Checksums in parts

Behind complete groups a checksum is continued from the register that they leave (`update_append`).
So it can be carried across parts of which only the last ends with an incomplete group, and comes to
the checksum of all parts together (`foldl_update`). The zeros that complete the last group may be
there or not (`update_append_zeros`), as long as nothing follows them.

A checksum that stands behind the bytes that it covers clears the register, and no other four bytes
do that (`ofBytes_append_eq_zero_iff`).
-/

namespace Reflash.Checksum

open Bytes

/-- Behind complete groups the checksum goes on from the register that they leave. -/
theorem update_append (register : UInt32) {front : Bytes} (h : 4 ∣ front.length) (rest : Bytes) :
    update register (front ++ rest) = update (update register front) rest := by
  fun_induction update register front with
  | case1 register a b c d front ih =>
      refine ih ?_
      simp only [List.length_cons] at h
      omega
  | case2 register a b c => exact absurd h (by simp)
  | case3 register a b => exact absurd h (by simp)
  | case4 register a => exact absurd h (by simp)
  | case5 register => rfl

/-- A checksum is carried across parts, of which only the last may end with an incomplete group. -/
theorem foldl_update (register : UInt32) {parts : List Bytes}
    (h : ∀ part ∈ parts.dropLast, 4 ∣ part.length) :
    parts.foldl update register = update register parts.flatten := by
  induction parts generalizing register with
  | nil => rfl
  | cons part rest ih =>
      cases rest with
      | nil => rw [List.flatten_singleton]; rfl
      | cons next rest =>
          rw [List.dropLast_cons_cons] at h
          have hpart : 4 ∣ part.length := h part List.mem_cons_self
          have hrest : ∀ p ∈ (next :: rest).dropLast, 4 ∣ p.length :=
            fun p hp => h p (List.mem_cons_of_mem _ hp)
          rw [List.foldl_cons, ih _ hrest, ← update_append register hpart]
          rfl

/-- Zeros that complete the last group change nothing. -/
theorem update_append_zeros (register : UInt32) {bytes : Bytes} {count : Nat}
    (h : bytes.length + count ≤ 4 * bytes.groupCount) :
    update register (bytes ++ List.replicate count 0) = update register bytes := by
  have hcount : groupCount (bytes ++ List.replicate count 0) = bytes.groupCount := by
    unfold groupCount at h ⊢
    rw [List.length_append, List.length_replicate]
    omega
  have hgroups : group (bytes ++ List.replicate count 0) = bytes.group := by
    funext i
    unfold group
    simp only [byteAt_append_zeros]
  rw [update_eq_feedGroups, update_eq_feedGroups, hcount, hgroups]

/-- Of all words that can be fed, only the register itself clears it. -/
theorem feed_eq_zero_iff {register word : UInt32} : feed register word = 0 ↔ register = word := by
  unfold feed
  constructor
  · intro h
    exact UInt32.xor_eq_zero_iff.mp (eq_zero_of_clocks_eq_zero h)
  · rintro rfl
    rw [UInt32.xor_self, clocks_zero]

/-- Behind complete groups, four bytes make the checksum zero exactly if they are the checksum of
these groups. -/
theorem ofBytes_append_eq_zero_iff {data trailer : Bytes} (hdata : 4 ∣ data.length)
    (htrailer : trailer.length = 4) :
    ofBytes (data ++ trailer) = 0 ↔ trailer = le32 (ofBytes data) := by
  match trailer, htrailer with
  | [a, b, c, d], _ =>
    have hlast : ofBytes (data ++ [a, b, c, d]) = feed (ofBytes data) (word32 a b c d) := by
      unfold ofBytes
      rw [update_append seed hdata]
      exact absorb_pack _ a b c d
    rw [hlast, feed_eq_zero_iff, ← le32_word32, le32_inj, eq_comm]

end Reflash.Checksum
