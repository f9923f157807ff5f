import Reflash.Proofs.Bytes.Groups
import Reflash.Proofs.Checksum.Hardware
import Reflash.Proofs.Checksum.Period

/-!
# What damage does to the checksum

The checksum feeds the groups of a byte string to the register, one after the other
(`feedAll_eq_feedGroups`), and is linear in them. So damage to one group changes it by the damage,
clocked once for every bit from there to the end (`ofBytes_of_agree`), whatever the bytes are.

Clocking takes no register but zero to zero, so damage to one group is always noticed
(`ofBytes_ne_of_agree`). The effect of a flipped bit is the register after `reach` clocks of one;
these are all different until the period is over, so two flipped bits are always noticed in byte
strings that are not too long (`ofBytes_flipBit_flipBit_ne`).
-/

namespace Reflash.Checksum

open Bytes

/-! ## The checksum as a fold over groups -/

/-- The register after the first `count` of a sequence of words. -/
def feedGroups (register : UInt32) (word : Nat → UInt32) : Nat → UInt32
  | 0 => register
  | count + 1 => feed (feedGroups register word count) (word count)

/-- The first word may be fed on its own. -/
theorem feedGroups_succ (register : UInt32) (word : Nat → UInt32) (count : Nat) :
    feedGroups register word (count + 1) =
      feedGroups (feed register (word 0)) (fun i => word (i + 1)) count := by
  induction count with
  | zero => rfl
  | succ count ih =>
      show feed (feedGroups register word (count + 1)) (word (count + 1)) = _
      rw [ih]
      rfl

/-- To feed bytes is to feed their groups, in order. -/
theorem feedAll_eq_feedGroups (register : UInt32) (bytes : Bytes) :
    feedAll register bytes = feedGroups register bytes.group bytes.groupCount := by
  fun_induction feedAll register bytes with
  | case1 register a b c d rest ih =>
      rw [ih, groupCount_cons, feedGroups_succ]
      rfl
  | case2 register a b c =>
      rw [groupCount_eq_one (by simp) (by simp)]
      rfl
  | case3 register a b =>
      rw [groupCount_eq_one (by simp) (by simp)]
      rfl
  | case4 register a =>
      rw [groupCount_eq_one (by simp) (by simp)]
      rfl
  | case5 register => rfl

/-- Carrying a checksum on is feeding further groups to its register. -/
theorem update_eq_feedGroups (register : UInt32) (bytes : Bytes) :
    update register bytes = feedGroups register bytes.group bytes.groupCount :=
  (update_eq_feedAll register bytes).trans (feedAll_eq_feedGroups register bytes)

/-- The checksum is what the groups make of the seed. -/
theorem ofBytes_eq_feedGroups (bytes : Bytes) :
    ofBytes bytes = feedGroups seed bytes.group bytes.groupCount :=
  update_eq_feedGroups seed bytes

/-- Feeding respects differences, of registers and of words. -/
theorem feed_xor (register other x y : UInt32) :
    feed (register ^^^ other) (x ^^^ y) = feed register x ^^^ feed other y := by
  have hregroup : register ^^^ other ^^^ (x ^^^ y) = register ^^^ x ^^^ (other ^^^ y) := by ac_rfl
  unfold feed
  rw [hregroup, clocks_xor]

/-- Feeding is linear in the register and the words. -/
theorem feedGroups_xor (register other : UInt32) (word noise : Nat → UInt32) (count : Nat) :
    feedGroups (register ^^^ other) (fun i => word i ^^^ noise i) count =
      feedGroups register word count ^^^ feedGroups other noise count := by
  induction count with
  | zero => rfl
  | succ count ih =>
      unfold feedGroups
      rw [ih, feed_xor]

/-- Zeros leave an empty register empty. -/
theorem feedGroups_eq_zero {word : Nat → UInt32} {count : Nat} (h : ∀ i < count, word i = 0) :
    feedGroups 0 word count = 0 := by
  induction count with
  | zero => rfl
  | succ count ih =>
      unfold feedGroups
      rw [ih fun i hi => h i (Nat.lt_succ_of_lt hi), h count (Nat.lt_succ_self count)]
      exact clocks_zero 32

/-- A single word that is not zero is clocked from its place to the end. -/
theorem feedGroups_single (noise : UInt32) {k count : Nat} (h : k < count) :
    feedGroups 0 (fun i => if i = k then noise else 0) count =
      clocks (32 * (count - k)) noise := by
  induction count with
  | zero => exact absurd h (Nat.not_lt_zero k)
  | succ count ih =>
      unfold feedGroups feed
      rcases Nat.lt_succ_iff_lt_or_eq.mp h with hbefore | rfl
      · rw [ih hbefore, if_neg (by omega), UInt32.xor_zero, ← clocks_add]
        congr 1
        omega
      · rw [feedGroups_eq_zero fun i hi => if_neg (Nat.ne_of_lt hi), if_pos rfl, UInt32.zero_xor,
          Nat.add_sub_cancel_left]

/-! ## Damage to one group -/

/-- What changes nothing is zero. -/
theorem eq_zero_of_xor_eq {x y : UInt32} (h : x ^^^ y = x) : y = 0 :=
  (UInt32.xor_right_inj x).mp (h.trans UInt32.xor_zero.symm)

section Agree

variable {bytes damaged : Bytes} {k : Nat}

/-- Damage to one group changes the checksum by the damage, clocked to the end. -/
theorem ofBytes_of_agree (hlength : damaged.length = bytes.length) (hk : k < bytes.groupCount)
    (hagree : ∀ i, i ≠ k → damaged.group i = bytes.group i) :
    ofBytes damaged = ofBytes bytes ^^^
      clocks (32 * (bytes.groupCount - k)) (bytes.group k ^^^ damaged.group k) := by
  have hcount : damaged.groupCount = bytes.groupCount := groupCount_congr hlength
  have hgroups : damaged.group = fun i =>
      bytes.group i ^^^ (if i = k then bytes.group k ^^^ damaged.group k else 0) := by
    funext i
    by_cases hi : i = k
    · rw [if_pos hi, hi, ← UInt32.xor_assoc, UInt32.xor_self, UInt32.zero_xor]
    · rw [if_neg hi, UInt32.xor_zero, hagree i hi]
  calc ofBytes damaged
      = feedGroups (seed ^^^ 0) damaged.group bytes.groupCount := by
        rw [ofBytes_eq_feedGroups, hcount, UInt32.xor_zero]
    _ = ofBytes bytes ^^^ feedGroups 0
          (fun i => if i = k then bytes.group k ^^^ damaged.group k else 0) bytes.groupCount := by
        rw [hgroups, feedGroups_xor, ← hgroups, ofBytes_eq_feedGroups]
    _ = _ := by rw [feedGroups_single _ hk]

/-- Damage that stays within one group is always noticed. -/
theorem ofBytes_ne_of_agree (h : AgreeOutside k damaged bytes)
    (hlength : damaged.length = bytes.length) (hne : damaged ≠ bytes) :
    ofBytes damaged ≠ ofBytes bytes := by
  have hgroup := h.group_ne hlength hne
  have hk : k < bytes.groupCount := by
    by_contra hbehind
    apply hgroup
    rw [group_of_le (Nat.not_lt.mp hbehind), group_of_le]
    unfold groupCount at hbehind ⊢
    omega
  intro heq
  rw [ofBytes_of_agree hlength hk fun i hi => h.group_eq hi] at heq
  have hnoise := eq_zero_of_clocks_eq_zero (eq_zero_of_xor_eq heq)
  exact hgroup (UInt32.xor_eq_zero_iff.mp hnoise).symm

end Agree

/-! ## Flipped bits -/

/-- The number of clocks by which a bit of a byte string of the given length would have to be the
lowest bit of the register. -/
def reach (length bit : Nat) : Nat :=
  32 * ((length + 3) / 4 - bit / 32) + bit % 32

/-- Different bits of a byte string have a different reach. -/
theorem reach_inj {length bit other : Nat} (hother : other < 8 * length)
    (h : reach length bit = reach length other) : bit = other := by
  unfold reach at h
  omega

/-- How far a bit reaches is bounded by the length. -/
theorem reach_lt (length bit : Nat) : reach length bit < 8 * length + 56 := by
  unfold reach
  omega

/-- A bit of the register is as many clocks away from its lowest bit. -/
theorem ofNat_two_pow_eq_clocks {n : Nat} (h : n < 32) : UInt32.ofNat (2 ^ n) = clocks n 1 := by
  have hbound : 2 ^ n < 2 ^ 32 := Nat.pow_lt_pow_right (by decide) h
  apply UInt32.toNat_inj.mp
  rw [UInt32.toNat_ofNat_of_lt' hbound, toNat_clocks n 1 (by simpa using hbound)]
  simp

/-- A flipped bit changes the checksum by the bit, clocked to the end. -/
theorem ofBytes_flipBit {bytes : Bytes} {bit : Nat} (h : bit < 8 * bytes.length) :
    ofBytes (bytes.flipBit bit) = ofBytes bytes ^^^ clocks (reach bytes.length bit) 1 := by
  have hk : bit / 32 < bytes.groupCount := by
    unfold groupCount
    omega
  have hnoise : bytes.group (bit / 32) ^^^ (bytes.flipBit bit).group (bit / 32) =
      clocks (bit % 32) 1 := by
    rw [group_flipBit h, if_pos rfl, ← UInt32.xor_assoc, UInt32.xor_self, UInt32.zero_xor,
      ofNat_two_pow_eq_clocks (Nat.mod_lt _ (by decide))]
  rw [ofBytes_of_agree (length_flipBit bytes bit) hk, hnoise, ← clocks_add, Nat.add_comm]
  · rfl
  · intro i hi
    rw [group_flipBit h, if_neg hi, UInt32.xor_zero]

/-- A flipped bit is noticed. -/
theorem ofBytes_flipBit_ne {bytes : Bytes} {bit : Nat} (h : bit < 8 * bytes.length) :
    ofBytes (bytes.flipBit bit) ≠ ofBytes bytes :=
  ofBytes_ne_of_agree (agreeOutside_flipBit bytes bit) (length_flipBit bytes bit) (flipBit_ne h)

/-- Two different flipped bits are noticed if the byte string is shorter than the period. -/
theorem ofBytes_flipBit_flipBit_ne {bytes : Bytes} {first second : Nat}
    (hsize : bytes.length ≤ 2 ^ 29 - 8) (hfirst : first < 8 * bytes.length)
    (hsecond : second < 8 * bytes.length) (hne : first ≠ second) :
    ofBytes ((bytes.flipBit first).flipBit second) ≠ ofBytes bytes := by
  have hreach : reach bytes.length first ≠ reach bytes.length second :=
    fun h => hne (reach_inj hsecond h)
  intro h
  rw [ofBytes_flipBit (by rwa [length_flipBit]), ofBytes_flipBit hfirst, length_flipBit,
    UInt32.xor_assoc] at h
  have heffects := UInt32.xor_eq_zero_iff.mp (eq_zero_of_xor_eq h)
  have hbound (bit : Nat) : reach bytes.length bit < 2 ^ 32 - 1 :=
    Nat.lt_of_lt_of_le (reach_lt _ _) (by omega)
  exact clocks_one_ne (hbound first) (hbound second) hreach heffects

end Reflash.Checksum
