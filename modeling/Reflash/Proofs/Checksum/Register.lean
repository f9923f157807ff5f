import Mathlib.Algebra.Group.Nat.Defs
import Reflash.Checksum.Basic
import Reflash.Proofs.Bytes.Words

/-!
# The shift register

Clocking the register is linear in exclusive or (`clocks_xor`), and as long as nothing falls off
the top it only shifts (`toNat_clocks`). So the effect of a byte can be followed on its own while
it moves up through the register, and what the table holds is the effect of a byte that has
arrived at the top: `fold_eq_clocks` says that one look-up stands for eight clocks.
-/

namespace Reflash.Checksum

open Bytes

/-- A bit that falls off the top comes back as the polynomial. -/
theorem clock_eq (register : UInt32) :
    clock register =
      register <<< 1 ^^^ (if register.toBitVec.msb then polynomial else 0) := by
  have htop : register &&& 0x80000000 = 0 ↔ register.toBitVec.msb = false := by
    rw [← UInt32.toBitVec_inj, UInt32.toBitVec_and]
    show register.toBitVec &&& BitVec.twoPow 32 31 = 0#32 ↔ _
    rw [BitVec.and_twoPow, BitVec.msb_eq_getLsbD_last]
    cases register.toBitVec.getLsbD 31 <;> decide
  unfold clock
  by_cases hclear : register.toBitVec.msb = false
  · rw [if_pos (htop.mpr hclear), hclear]
    simp
  · rw [if_neg (fun h => hclear (htop.mp h)), if_pos (by simpa using hclear)]

/-- One clock is linear. -/
theorem clock_xor (x y : UInt32) : clock (x ^^^ y) = clock x ^^^ clock y := by
  rw [clock_eq, clock_eq x, clock_eq y, UInt32.shiftLeft_xor, UInt32.toBitVec_xor,
    BitVec.msb_xor]
  cases x.toBitVec.msb <;> cases y.toBitVec.msb
  · simp
  · simp [UInt32.xor_assoc]
  · simp only [Bool.xor_false, if_true, Bool.false_eq_true, if_false, UInt32.xor_zero]
    ac_rfl
  · -- both bits fall off, and the two polynomials cancel
    have hcancel : x <<< 1 ^^^ polynomial ^^^ (y <<< 1 ^^^ polynomial) =
        x <<< 1 ^^^ y <<< 1 ^^^ (polynomial ^^^ polynomial) := by ac_rfl
    simp only [Bool.xor_self, Bool.false_eq_true, if_false, if_true]
    rw [hcancel, UInt32.xor_self]

/-- Any number of clocks is linear. -/
theorem clocks_xor (n : Nat) (x y : UInt32) :
    clocks n (x ^^^ y) = clocks n x ^^^ clocks n y := by
  induction n generalizing x y with
  | zero => rfl
  | succ n ih =>
      show clocks n (clock (x ^^^ y)) = clocks n (clock x) ^^^ clocks n (clock y)
      rw [clock_xor, ih]

/-- Clocks can be counted in two goes. -/
theorem clocks_add (m n : Nat) (x : UInt32) : clocks (m + n) x = clocks n (clocks m x) := by
  induction m generalizing x with
  | zero => rw [Nat.zero_add]; rfl
  | succ m ih =>
      rw [Nat.succ_add]
      exact ih (clock x)

/-- As long as nothing falls off the top, clocking doubles the register. -/
theorem toNat_clocks (n : Nat) (x : UInt32) (h : 2 ^ n * x.toNat < 2 ^ 32) :
    (clocks n x).toNat = 2 ^ n * x.toNat := by
  induction n generalizing x with
  | zero => simp [clocks]
  | succ n ih =>
      have hdouble : 2 * x.toNat < 2 ^ 32 := by
        refine Nat.lt_of_le_of_lt (Nat.mul_le_mul_right _ ?_) h
        exact Nat.le_self_pow (Nat.succ_ne_zero n) 2
      -- the top bit is clear, so the first clock only shifts
      have hmsb : x.toBitVec.msb = false := by
        rw [BitVec.msb_eq_false_iff_two_mul_lt]
        exact hdouble
      have hclock : (clock x).toNat = 2 * x.toNat := by
        rw [clock_eq, hmsb]
        simp only [Bool.false_eq_true, if_false, UInt32.xor_zero, UInt32.toNat_shiftLeft,
          UInt32.reduceToNat, Nat.reduceMod, Nat.shiftLeft_eq]
        omega
      rw [Nat.pow_succ, Nat.mul_assoc, ← hclock] at h ⊢
      exact ih (clock x) h

/-- A byte that does not reach the top only moves up. -/
theorem clocks_lane (byte : UInt8) (n k : Nat) (h : k + n ≤ 24) :
    clocks n (byte.toUInt32 <<< UInt32.ofNat k) = byte.toUInt32 <<< UInt32.ofNat (k + n) := by
  have hbyte : byte.toNat < 2 ^ 8 := byte.toNat_lt
  have hvalue := toNat_lane byte k (by omega)
  have hmoved : 2 ^ n * (2 ^ k * byte.toNat) = 2 ^ (k + n) * byte.toNat := by
    rw [← Nat.mul_assoc, ← Nat.pow_add, Nat.add_comm n k]
  have hbound : 2 ^ (k + n) * byte.toNat < 2 ^ 32 := by
    calc 2 ^ (k + n) * byte.toNat < 2 ^ (k + n) * 2 ^ 8 :=
          Nat.mul_lt_mul_of_pos_left hbyte (Nat.two_pow_pos _)
      _ = 2 ^ (k + n + 8) := (Nat.pow_add 2 (k + n) 8).symm
      _ ≤ 2 ^ 32 := Nat.pow_le_pow_right (by decide) (by omega)
  apply UInt32.toNat_inj.mp
  rw [toNat_clocks n _ (by rw [hvalue, hmoved]; exact hbound), hvalue, hmoved,
    toNat_lane byte (k + n) h]

/-- A register is its highest byte at the top, over three bytes that shifting by eight keeps. -/
theorem exists_below_top (register : UInt32) :
    ∃ low : UInt32, low.toNat < 2 ^ 24 ∧ register <<< 8 = low <<< 8 ∧
      register = low ^^^ (register >>> 24).toUInt8.toUInt32 <<< 24 := by
  have hregister := register.toNat_lt
  have hvalue : (UInt32.ofNat (register.toNat % 2 ^ 24)).toNat = register.toNat % 2 ^ 24 := by
    rw [UInt32.toNat_ofNat']
    omega
  have hlow : (UInt32.ofNat (register.toNat % 2 ^ 24)).toNat < 2 ^ 24 := by omega
  refine ⟨UInt32.ofNat (register.toNat % 2 ^ 24), hlow, ?_, ?_⟩
  · apply UInt32.toNat_inj.mp
    rw [UInt32.toNat_shiftLeft, UInt32.toNat_shiftLeft, hvalue]
    simp only [UInt32.reduceToNat, Nat.reduceMod, Nat.shiftLeft_eq]
    omega
  · apply UInt32.toNat_inj.mp
    refine Eq.trans ?_ (toNat_xor_lane _ (register >>> 24).toUInt8 24 (by decide) hlow).symm
    rw [hvalue]
    simp only [UInt32.toNat_toUInt8, UInt32.toNat_shiftRight, UInt32.reduceToNat, Nat.reduceMod,
      Nat.shiftRight_eq_div_pow]
    omega

/-- Folding a lane is adding its low byte at the top and clocking it through. -/
theorem fold_eq_clocks (register lane : UInt32) :
    fold register lane = clocks 8 (register ^^^ lane.toUInt8.toUInt32 <<< 24) := by
  obtain ⟨low, hlow, hshift, hsplit⟩ := exists_below_top register
  -- in eight clocks the three lower bytes come to the top, but nothing of them falls off
  have hkept : clocks 8 low = low <<< 8 := by
    apply UInt32.toNat_inj.mp
    rw [toNat_clocks 8 low (by omega), UInt32.toNat_shiftLeft]
    simp only [UInt32.reduceToNat, Nat.reduceMod, Nat.shiftLeft_eq]
    omega
  have htop : register ^^^ lane.toUInt8.toUInt32 <<< 24 =
      low ^^^ ((register >>> 24) ^^^ lane).toUInt8.toUInt32 <<< 24 := by
    conv => lhs; rw [hsplit]
    rw [UInt32.toUInt8_xor, UInt8.toUInt32_xor, UInt32.shiftLeft_xor, UInt32.xor_assoc]
  rw [htop, clocks_xor, hkept, ← hshift]
  show register <<< 8 ^^^ lookup _ = register <<< 8 ^^^ entry _
  rw [lookup_eq_entry]

end Reflash.Checksum
