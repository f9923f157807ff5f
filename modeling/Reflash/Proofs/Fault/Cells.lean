import Mathlib.Logic.Function.Defs
import Reflash.Fault.Flag

/-!
# The two cells of a flag

A flag that is shared is kept in two cells: one tells whether it is raised, the other holds the
reason. `Cells` is such a pair, and what is done to it is written cell by cell. Nothing in the type
keeps a pair from holding a reason while it is lowered, but no pair that began lowered ever does:
`Cells.reachable_iff` says that the pairs that can come about are those of a `Flag`. What is done to
a flag shows in its cells as what is done to the cells (`Flag.cells_raise`, `Flag.cells_clear`,
`Flag.cells_withoutReason`), so nothing is lost by speaking of the flag.
-/

namespace Reflash.Fault

/-- What a flag is kept in. -/
structure Cells where
  /-- Whether the flag is raised. -/
  raised : Bool
  /-- The reason, while there is one. -/
  reason : Option String
  deriving DecidableEq, Repr

namespace Cells

/-- The cells of a new flag. -/
def lowered : Cells :=
  { raised := false, reason := none }

/-- Fills the second cell if it is empty, and raises the flag in any case. -/
def raise (reason : String) (cells : Cells) : Cells :=
  { raised := true, reason := cells.reason.or (some reason) }

/-- Lowers the flag and empties the second cell. -/
def clear (_ : Cells) : Cells :=
  { raised := false, reason := none }

/-- Takes the reason out of the second cell. The first one is left alone. -/
def takeReason (cells : Cells) : Option String × Cells :=
  (cells.reason, { cells with reason := none })

/-- The cells that a new flag can come to have. -/
inductive Reachable : Cells → Prop where
  | lowered : Reachable lowered
  | raise {cells} (reason) : Reachable cells → Reachable (cells.raise reason)
  | clear {cells} : Reachable cells → Reachable cells.clear
  | takeReason {cells} : Reachable cells → Reachable cells.takeReason.2

end Cells

namespace Flag

/-- What is in the cells of a flag. -/
def cells : Flag → Cells
  | .lowered => .lowered
  | .raised reason => { raised := true, reason }

variable (flag : Flag)

/-- The first cell tells whether the flag is raised. -/
@[simp]
theorem raised_cells : flag.cells.raised = flag.isRaised := by
  cases flag <;> rfl

/-- The second cell holds the reason. -/
@[simp]
theorem reason_cells : flag.cells.reason = flag.reason? := by
  cases flag <;> rfl

/-- Raising a flag does to its cells what raising does. -/
@[simp]
theorem cells_raise (reason : String) : (flag.raise reason).cells = flag.cells.raise reason := by
  cases flag with
  | lowered => rfl
  | raised first => cases first <;> rfl

/-- Lowering a flag does to its cells what lowering does. -/
@[simp]
theorem cells_clear : flag.clear.cells = flag.cells.clear :=
  rfl

/-- What is taken out of the cells of a flag is its reason, and the flag without a reason is left. -/
@[simp]
theorem cells_withoutReason :
    flag.cells.takeReason = (flag.reason?, flag.withoutReason.cells) := by
  cases flag <;> rfl

/-- A flag can be told from its cells. -/
theorem cells_injective : Function.Injective cells := by
  intro flag other h
  cases flag <;> cases other <;> cases h <;> rfl

/-- The cells of every flag can come about. -/
theorem reachable_cells : flag.cells.Reachable := by
  cases flag with
  | lowered => exact .lowered
  | raised reason =>
      cases reason with
      | none => exact .takeReason (.raise "" .lowered)
      | some reason => exact .raise reason .lowered

end Flag

/-- The cells that can come about are those of the flags. -/
theorem Cells.reachable_iff {cells : Cells} :
    cells.Reachable ↔ ∃ flag : Flag, flag.cells = cells := by
  constructor
  · intro h
    -- every step leads from the cells of a flag to the cells of a flag
    induction h with
    | lowered => exact ⟨.lowered, rfl⟩
    | raise reason _ ih =>
        obtain ⟨flag, rfl⟩ := ih
        exact ⟨flag.raise reason, flag.cells_raise reason⟩
    | clear => exact ⟨.lowered, rfl⟩
    | takeReason _ ih =>
        obtain ⟨flag, rfl⟩ := ih
        exact ⟨flag.withoutReason, congrArg Prod.snd flag.cells_withoutReason.symm⟩
  · rintro ⟨flag, rfl⟩
    exact flag.reachable_cells

end Reflash.Fault
