/-!
# Log records

Operations say what they do in records of a level and a text. They hand the records to their
caller, in order, as part of their outcome.
-/

namespace Reflash.Log

/-- How much a record matters. -/
inductive Level where
  | error
  | warn
  | info
  | debug
  | trace
  deriving DecidableEq, Repr

/-- One record. -/
structure Record where
  level : Level
  text : String
  deriving DecidableEq, Repr

end Reflash.Log
