import Reflash.Bytes.Basic

/-!
# Blocks

Cutting a byte string into blocks loses nothing (`flatten_blocks`, `flatten_take_blocks`), and
block number `i` is the window of `size` bytes at offset `size * i`, as many as rounding up the
length gives (`blocks_eq_map_range`).
-/

namespace Reflash.Bytes

variable {size : Nat}

/-- No bytes make no blocks. -/
theorem blocks_nil (positive : 0 < size) : blocks size [] positive = [] := by
  unfold blocks
  rfl

/-- The blocks one after the other are the byte string. -/
theorem flatten_blocks (positive : 0 < size) (bytes : Bytes) :
    (blocks size bytes positive).flatten = bytes := by
  fun_induction blocks size bytes positive with
  | case1 bytes hempty =>
      rw [List.isEmpty_iff.mp hempty]
      rfl
  | case2 bytes hsome ih =>
      rw [List.flatten_cons, ih, List.take_append_drop]

/-- The first blocks one after the other are the front of the byte string. -/
theorem flatten_take_blocks (positive : 0 < size) (bytes : Bytes) (n : Nat) :
    ((blocks size bytes positive).take n).flatten = bytes.take (size * n) := by
  fun_induction blocks size bytes positive generalizing n with
  | case1 bytes hempty =>
      rw [List.isEmpty_iff.mp hempty, List.take_nil, List.take_nil]
      rfl
  | case2 bytes hsome ih =>
      cases n with
      | zero => simp
      | succ n =>
          rw [List.take_succ_cons, List.flatten_cons, ih, Nat.mul_succ, Nat.add_comm,
            List.take_add]

/-- Rounding up counts one block more for every further `size` bytes. -/
theorem round_up_drop (positive : 0 < size) {bytes : Bytes} (h : bytes ≠ []) :
    (bytes.length + (size - 1)) / size =
      ((bytes.drop size).length + (size - 1)) / size + 1 := by
  have hlength : 0 < bytes.length := List.length_pos_iff.mpr h
  rw [List.length_drop]
  by_cases hlast : bytes.length ≤ size
  · rw [Nat.sub_eq_zero_of_le hlast, Nat.zero_add,
      Nat.div_eq_of_lt (Nat.sub_lt positive Nat.one_pos)]
    exact Nat.div_eq_of_lt_le (by omega) (by omega)
  · rw [← Nat.add_div_right _ positive]
    congr 1
    omega

/-- The blocks are the windows of `size` bytes, from the front, as many as the length needs. -/
theorem blocks_eq_map_range (positive : 0 < size) (bytes : Bytes) :
    blocks size bytes positive =
      (List.range ((bytes.length + (size - 1)) / size)).map
        fun i => (bytes.drop (size * i)).take size := by
  fun_induction blocks size bytes positive with
  | case1 bytes hempty =>
      rw [List.isEmpty_iff.mp hempty, List.length_nil, Nat.zero_add,
        Nat.div_eq_of_lt (Nat.sub_lt positive Nat.one_pos)]
      rfl
  | case2 bytes hsome ih =>
      have hne : bytes ≠ [] := fun h => hsome (List.isEmpty_iff.mpr h)
      rw [round_up_drop positive hne, List.range_succ_eq_map, List.map_cons, List.map_map, ih]
      congr 1
      apply List.map_congr_left
      intro i _
      show _ = (bytes.drop (size * (i + 1))).take size
      rw [List.drop_drop, Nat.mul_succ, Nat.add_comm]

end Reflash.Bytes
