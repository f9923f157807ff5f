/-!
# The fault flag

A stack that finds an error of its own does not return it from the call in which it found it. It
raises a flag, which stays raised until the next request lowers it, and leaves a reason. Only the
first reason counts until the flag is lowered or the reason is taken away; taking the reason away
leaves the flag raised.
-/

namespace Reflash.Fault

/-- The state of a flag. A reason can only be there while the flag is raised. -/
inductive Flag where
  | lowered
  | raised (reason : Option String)
  deriving DecidableEq, Repr

namespace Flag

/-- Raises the flag. A reason that is still there is kept. -/
def raise (reason : String) : Flag → Flag
  | .raised (some first) => .raised (some first)
  | _ => .raised (some reason)

/-- Lowers the flag and forgets the reason. -/
def clear (_ : Flag) : Flag :=
  .lowered

/-- Whether the flag is raised. -/
def isRaised : Flag → Bool
  | .lowered => false
  | .raised _ => true

/-- The reason, if there is one. -/
def reason? : Flag → Option String
  | .lowered => none
  | .raised reason => reason

/-- The flag once its reason has been taken away. -/
def withoutReason : Flag → Flag
  | .lowered => .lowered
  | .raised _ => .raised none

/-- Raises the flag for several reasons in turn. -/
def raiseAll (reasons : List String) (flag : Flag) : Flag :=
  reasons.foldl (fun flag reason => flag.raise reason) flag

/-- A flag that was raised is raised. -/
@[simp]
theorem isRaised_raise (flag : Flag) (reason : String) : (flag.raise reason).isRaised = true := by
  cases flag with
  | lowered => rfl
  | raised r => cases r <;> rfl

/-- Taking the reason away lowers no flag. -/
@[simp]
theorem isRaised_withoutReason (flag : Flag) : flag.withoutReason.isRaised = flag.isRaised := by
  cases flag <;> rfl

/-- Reasons can be given in two goes. -/
@[simp]
theorem raiseAll_append (first second : List String) (flag : Flag) :
    flag.raiseAll (first ++ second) = (flag.raiseAll first).raiseAll second :=
  List.foldl_append

/-- A reason that is still there outlasts all others. -/
theorem raiseAll_raised (first : String) (reasons : List String) :
    (raised (some first)).raiseAll reasons = raised (some first) := by
  induction reasons with
  | nil => rfl
  | cons _ _ ih => exact ih

/-- A lowered flag is raised by any reason at all. -/
theorem isRaised_raiseAll_lowered (reasons : List String) :
    (lowered.raiseAll reasons).isRaised = !reasons.isEmpty := by
  cases reasons with
  | nil => rfl
  | cons first later => exact congrArg isRaised (raiseAll_raised first later)

/-- Once the flag was lowered, the first of the reasons is the one that counts. -/
theorem reason?_raiseAll_lowered (reasons : List String) :
    (lowered.raiseAll reasons).reason? = reasons.head? := by
  cases reasons with
  | nil => rfl
  | cons first later => exact congrArg reason? (raiseAll_raised first later)

end Flag

end Reflash.Fault
