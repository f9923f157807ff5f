import Reflash.Checksum.Peripheral
import Reflash.Proofs.Checksum.Register

/-!
# The table agrees with the hardware

The checksum is computed from a table, a byte at a time and with the lanes of each group in
reverse; the peripheral takes whole words and clocks them through bit by bit. `absorb_pack` says
that the two treat one group alike, `update_eq_feedAll` carries this through a byte string of any
length, the short last group included, and `ofBytes_eq_peripheral` is the agreement of the two
checksums.
-/

namespace Reflash.Checksum

open Bytes

/-- A packed group is the little-endian word of its bytes in reverse. -/
theorem pack_eq_word32 (a b c d : UInt8) : pack a b c d = word32 d c b a := by
  unfold pack word32
  rw [UInt32.or_comm _ d.toUInt32, UInt32.or_comm _ (c.toUInt32 <<< 8),
    UInt32.or_comm _ (b.toUInt32 <<< 16), UInt32.or_assoc, UInt32.or_assoc]

/-- The lanes of a packed group, from the lowest up, are its bytes from the last to the first. -/
theorem lanes_pack (a b c d : UInt8) :
    (pack a b c d).toUInt8 = d ∧ (pack a b c d >>> 8).toUInt8 = c ∧
      (pack a b c d >>> 16).toUInt8 = b ∧ (pack a b c d >>> 24).toUInt8 = a := by
  have h := le32_word32 d c b a
  rw [← pack_eq_word32] at h
  simpa only [le32, List.cons.injEq, and_true] using h

/-- Folding the four lanes of a group feeds its little-endian word to the peripheral. -/
theorem absorb_pack (register : UInt32) (a b c d : UInt8) :
    absorb register (pack a b c d) = feed register (word32 a b c d) := by
  obtain ⟨hd, hc, hb, ha⟩ := lanes_pack a b c d
  -- each byte of the word reaches the top in time for its own last eight clocks
  have harrive (byte : UInt8) (n k : Nat) (hk : k + n = 24) :
      clocks 32 (byte.toUInt32 <<< UInt32.ofNat k) = clocks (32 - n) (byte.toUInt32 <<< 24) := by
    rw [show 32 = n + (32 - n) by omega, clocks_add, clocks_lane byte n k (by omega), hk,
      show n + (32 - n) - n = 32 - n by omega]
    rfl
  have hfirst : clocks 32 a.toUInt32 = clocks 8 (a.toUInt32 <<< 24) := by
    rw [← harrive a 24 0 (by decide)]
    congr 1
    simp
  have hsecond : clocks 32 (b.toUInt32 <<< 8) = clocks 16 (b.toUInt32 <<< 24) :=
    harrive b 16 8 (by decide)
  have hthird : clocks 32 (c.toUInt32 <<< 16) = clocks 24 (c.toUInt32 <<< 24) :=
    harrive c 8 16 (by decide)
  unfold absorb feed
  rw [fold_eq_clocks, fold_eq_clocks, fold_eq_clocks, fold_eq_clocks, hd, hc, hb, ha,
    word32_eq_xor]
  simp only [clocks_xor, ← clocks_add, Nat.reduceAdd, hfirst, hsecond, hthird]
  ac_rfl

/-- From any register value, the table and the peripheral agree on every byte string. -/
theorem update_eq_feedAll (register : UInt32) (bytes : Bytes) :
    update register bytes = feedAll register bytes := by
  fun_induction update register bytes with
  | case1 register a b c d rest ih =>
      rw [ih, absorb_pack]
      rfl
  | case2 register a b c => exact absorb_pack register a b c 0
  | case3 register a b => exact absorb_pack register a b 0 0
  | case4 register a => exact absorb_pack register a 0 0 0
  | case5 register => rfl

/-- The checksum of a byte string, computed from the table, is the one that the peripheral
computes bit by bit. -/
theorem ofBytes_eq_peripheral (bytes : Bytes) : ofBytes bytes = peripheral bytes :=
  update_eq_feedAll seed bytes

end Reflash.Checksum
