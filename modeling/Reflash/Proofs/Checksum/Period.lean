import Mathlib.Data.Nat.Bitwise
import Mathlib.Dynamics.PeriodicPts.Defs
import Mathlib.Tactic.NormNum.Prime
import Reflash.Proofs.Checksum.Register

/-!
# The period of the shift register

A register that starts from one and is clocked comes back to one after `2 ^ 32 - 1` clocks and not
before (`minimalPeriod_clock`): it runs through every value but zero. So two different numbers of
clocks below that leave different registers.

The clocks are too many to be carried out. Since clocking is linear, the register after twice as
many clocks can be computed from the register itself (`clocks_add_eq_times`), and `jump` comes to
any number of clocks by doubling.
-/

namespace Reflash.Checksum

open Function

/-- Several clocks are one clock, iterated. -/
theorem clocks_eq_iterate (n : Nat) (x : UInt32) : clocks n x = clock^[n] x := by
  induction n generalizing x with
  | zero => rfl
  | succ n ih => exact ih (clock x)

/-- An empty register stays empty. -/
theorem clocks_zero (n : Nat) : clocks n 0 = 0 := by
  induction n with
  | zero => rfl
  | succ n ih => exact ih

/-- Only a clear register is clear after a clock. -/
theorem eq_zero_of_clock_eq_zero {x : UInt32} (h : clock x = 0) : x = 0 := by
  rw [clock_eq] at h
  -- the shift leaves the lowest bit clear, and the polynomial has it
  have hlow := congrArg (fun y : UInt32 => y.toNat % 2) h
  have hclear : (x <<< 1).toNat % 2 = 0 := by
    simp only [UInt32.toNat_shiftLeft, UInt32.reduceToNat, Nat.reduceMod, Nat.shiftLeft_eq]
    omega
  cases htop : x.toBitVec.msb with
  | true =>
      rw [htop, if_pos rfl] at hlow
      simp only [UInt32.toNat_xor, Nat.xor_mod_two_eq] at hlow
      simp only [polynomial, UInt32.reduceToNat] at hlow
      omega
  | false =>
      have hsmall : 2 * x.toNat < 2 ^ 32 := BitVec.msb_eq_false_iff_two_mul_lt.mp htop
      rw [htop, if_neg Bool.false_ne_true, UInt32.xor_zero] at h
      have hvalue := congrArg UInt32.toNat h
      simp only [UInt32.toNat_shiftLeft, UInt32.reduceToNat, Nat.reduceMod,
        Nat.shiftLeft_eq] at hvalue
      apply UInt32.toNat_inj.mp
      show x.toNat = 0
      omega

/-- A register that comes to be empty was empty before. -/
theorem eq_zero_of_clocks_eq_zero {n : Nat} {x : UInt32} (h : clocks n x = 0) : x = 0 := by
  induction n generalizing x with
  | zero => exact h
  | succ n ih => exact eq_zero_of_clock_eq_zero (ih h)

/-! ## Counting clocks by doubling -/

/-- The sum of `x` clocked as often as the number of each bit set in `n`, of which the lowest
`digits` are looked at. -/
def times (x : UInt32) : Nat → Nat → UInt32
  | 0, _ => 0
  | digits + 1, n =>
    if n % 2 = 1 then x ^^^ clock (times x digits (n / 2)) else clock (times x digits (n / 2))

/-- The register that `n` clocks make of one, for `n` with so many binary digits. -/
def jump : Nat → Nat → UInt32
  | 0, _ => 1
  | digits + 1, n =>
    let half := jump digits (n / 2)
    let whole := times half 32 half.toNat
    if n % 2 = 1 then clock whole else whole

/-- A number as a register is its lowest bit beside half of it, clocked once. -/
theorem ofNat_eq_clock {n : Nat} (h : n < 2 ^ 32) :
    UInt32.ofNat n = (if n % 2 = 1 then 1 else 0) ^^^ clock (UInt32.ofNat (n / 2)) := by
  have hhalf : (UInt32.ofNat (n / 2)).toNat = n / 2 :=
    UInt32.toNat_ofNat_of_lt' (show n / 2 < 2 ^ 32 by omega)
  have hclock : (clock (UInt32.ofNat (n / 2))).toNat = 2 * (n / 2) := by
    have hdouble := toNat_clocks 1 (UInt32.ofNat (n / 2)) (by rw [hhalf]; omega)
    rwa [hhalf] at hdouble
  apply UInt32.toNat_inj.mp
  rw [UInt32.toNat_ofNat_of_lt' h, UInt32.toNat_xor, hclock]
  split
  · rw [Nat.xor_comm]
    show n = 2 * (n / 2) ^^^ 1
    rw [Nat.xor_one_of_even (even_two_mul _)]
    omega
  · show n = 0 ^^^ 2 * (n / 2)
    rw [Nat.zero_xor]
    omega

/-- What clocks make of a register follows from what they make of one. -/
theorem clocks_ofNat_eq_times (m : Nat) {digits n : Nat} (hdigits : digits ≤ 32)
    (hn : n < 2 ^ digits) : clocks m (UInt32.ofNat n) = times (clocks m 1) digits n := by
  induction digits generalizing n with
  | zero =>
      obtain rfl : n = 0 := by omega
      exact clocks_zero m
  | succ digits ih =>
      have hbound : n < 2 ^ 32 := Nat.lt_of_lt_of_le hn (Nat.pow_le_pow_right (by decide) hdigits)
      have hhigher : clocks m (clock (UInt32.ofNat (n / 2))) =
          clock (times (clocks m 1) digits (n / 2)) := by
        rw [← ih (by omega) (by rw [Nat.pow_succ] at hn; omega)]
        exact clocks_add m 1 _
      rw [ofNat_eq_clock hbound, clocks_xor, hhigher, times]
      split
      · rfl
      · rw [clocks_zero, UInt32.zero_xor]

/-- The register after two numbers of clocks, from the registers after each of them. -/
theorem clocks_add_eq_times (m n : Nat) :
    clocks (n + m) 1 = times (clocks m 1) 32 (clocks n 1).toNat := by
  rw [clocks_add, ← clocks_ofNat_eq_times m (Nat.le_refl 32) (clocks n 1).toNat_lt,
    UInt32.ofNat_toNat]

/-- Doubling comes to the register that clocks one after the other make of one. -/
theorem jump_eq_clocks {digits n : Nat} (h : n < 2 ^ digits) : jump digits n = clocks n 1 := by
  induction digits generalizing n with
  | zero =>
      obtain rfl : n = 0 := by omega
      rfl
  | succ digits ih =>
      have hhalf : jump digits (n / 2) = clocks (n / 2) 1 :=
        ih (by rw [Nat.pow_succ] at h; omega)
      unfold jump
      simp only [hhalf, ← clocks_add_eq_times]
      -- an odd number of clocks is one more than twice its half
      split
      · show clocks 1 _ = _
        rw [← clocks_add]
        congr 1
        omega
      · congr 1
        omega

/-! ## The period -/

/-- Whether so many clocks bring one back to itself is decided by doubling. -/
theorem isPeriodicPt_clock_iff {n : Nat} (h : n < 2 ^ 32) :
    IsPeriodicPt clock n 1 ↔ jump 32 n = 1 := by
  rw [jump_eq_clocks h, clocks_eq_iterate]
  rfl

/-- The prime factors of the period. -/
theorem mem_of_prime_dvd {p : Nat} (hp : p.Prime) (h : p ∣ 2 ^ 32 - 1) :
    p ∈ [3, 5, 17, 257, 65537] := by
  rw [show 2 ^ 32 - 1 = 3 * 5 * 17 * 257 * 65537 by decide] at h
  simp only [hp.dvd_mul] at h
  rcases h with (((h | h) | h) | h) | h <;>
    simp [(Nat.prime_dvd_prime_iff_eq hp (by norm_num)).mp h]

/-- From one, the register takes `2 ^ 32 - 1` clocks to come back to one, and not fewer. -/
theorem minimalPeriod_clock : minimalPeriod clock 1 = 2 ^ 32 - 1 := by
  have hfull : IsPeriodicPt clock (2 ^ 32 - 1) 1 :=
    (isPeriodicPt_clock_iff (by decide)).mpr (by decide +kernel)
  obtain ⟨cofactor, hcofactor⟩ := hfull.minimalPeriod_dvd
  by_contra hne
  -- a smaller period would divide the full one with a prime factor taken out
  have hproper : cofactor ≠ 1 := by
    rintro rfl
    exact hne (by rw [hcofactor, Nat.mul_one])
  obtain ⟨p, hp, rest, rfl⟩ := Nat.exists_prime_and_dvd hproper
  have hsplit : 2 ^ 32 - 1 = p * (minimalPeriod clock 1 * rest) := by
    rw [hcofactor]
    ac_rfl
  have hdivided : (2 ^ 32 - 1) / p = minimalPeriod clock 1 * rest := by
    rw [hsplit, Nat.mul_div_cancel_left _ hp.pos]
  have hperiodic : IsPeriodicPt clock ((2 ^ 32 - 1) / p) 1 := by
    rw [hdivided]
    exact (isPeriodicPt_minimalPeriod clock 1).mul_const rest
  have hshort : ∀ q ∈ [3, 5, 17, 257, 65537], jump 32 ((2 ^ 32 - 1) / q) ≠ 1 := by
    decide +kernel
  refine hshort p (mem_of_prime_dvd hp ⟨_, hsplit⟩) ((isPeriodicPt_clock_iff ?_).mp hperiodic)
  exact Nat.lt_of_le_of_lt (Nat.div_le_self _ _) (by decide)

/-- Different numbers of clocks below the period make different registers of one. -/
theorem clocks_one_ne {m n : Nat} (hm : m < 2 ^ 32 - 1) (hn : n < 2 ^ 32 - 1) (h : m ≠ n) :
    clocks m 1 ≠ clocks n 1 := by
  rw [clocks_eq_iterate, clocks_eq_iterate]
  rw [← minimalPeriod_clock] at hm hn
  exact fun heq => h ((iterate_eq_iterate_iff_of_lt_minimalPeriod hm hn).mp heq)

end Reflash.Checksum
