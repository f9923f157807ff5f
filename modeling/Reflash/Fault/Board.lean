import Reflash.Fault.Flag

/-!
# Shared flags

A flag may be held in several places at once. A board keeps flags and handles to them: every
handle of one flag sees what is done through any other handle of it, and flags do not touch each
other. Handles are numbered in the order in which they were made.
-/

namespace Reflash.Fault

/-- Flags, and the handles through which they are used. -/
structure Board where
  /-- The flags. -/
  flags : List Flag
  /-- For each handle the number of its flag. -/
  handles : List Nat
  deriving DecidableEq, Repr

/-- What can be done on a board. -/
inductive Action where
  | raise (handle : Nat) (reason : String)
  | clear (handle : Nat)
  | takeReason (handle : Nat)
  /-- Make another handle of the flag that a handle belongs to. -/
  | share (handle : Nat)
  /-- Make a flag, lowered, with a handle of its own. -/
  | fresh
  deriving DecidableEq, Repr

namespace Board

/-- A board with one lowered flag and one handle to it. -/
def single : Board :=
  { flags := [.lowered], handles := [0] }

/-- The flag behind a handle. Behind a handle that was never made there is a lowered flag. -/
def flag (board : Board) (handle : Nat) : Flag :=
  (do board.flags[← board.handles[handle]?]?).getD .lowered

/-- The board with the flag behind a handle changed. -/
def change (board : Board) (handle : Nat) (f : Flag → Flag) : Board :=
  match board.handles[handle]? with
  | none => board
  | some number => { board with flags := board.flags.modify number f }

/-- Whether the flag of each handle is raised. -/
def raised (board : Board) : List Bool :=
  (List.range board.handles.length).map fun handle => (board.flag handle).isRaised

/-- Does an action. Taking a reason also gives the reason taken. -/
def act (board : Board) : Action → Option String × Board
  | .raise handle reason => (none, board.change handle (·.raise reason))
  | .clear handle => (none, board.change handle Flag.clear)
  | .takeReason handle =>
    ((board.flag handle).reason?, board.change handle Flag.withoutReason)
  | .share handle =>
    (none, { board with handles := board.handles ++ (board.handles[handle]?).toList })
  | .fresh =>
    (none, { flags := board.flags ++ [.lowered]
             handles := board.handles ++ [board.flags.length] })

/-- Does actions one after the other. -/
def run (board : Board) (actions : List Action) : Board :=
  actions.foldl (fun board action => (board.act action).2) board

end Board

end Reflash.Fault
