/-!
# Lengths of time

Time is counted in whole nanoseconds. The text of a duration uses the largest unit of which there
is at least one, and gives the exact amount in that unit without trailing zeros.
-/

namespace Reflash

/-- A length of time. -/
structure Duration where
  /-- The length in nanoseconds. -/
  nanoseconds : Nat
  deriving DecidableEq, Repr

namespace Duration

/-- No time at all. -/
def zero : Duration := ⟨0⟩

/-- Whole seconds and further nanoseconds. -/
def ofParts (seconds nanoseconds : Nat) : Duration :=
  ⟨seconds * 1000000000 + nanoseconds⟩

/-- Whole seconds. -/
def ofSeconds (n : Nat) : Duration :=
  ⟨n * 1000000000⟩

/-- Whole milliseconds. -/
def ofMilliseconds (n : Nat) : Duration :=
  ⟨n * 1000000⟩

/-- Whole microseconds. -/
def ofMicroseconds (n : Nat) : Duration :=
  ⟨n * 1000⟩

/-- The whole seconds in a duration. -/
def seconds (d : Duration) : Nat :=
  d.nanoseconds / 1000000000

/-- The nanoseconds beyond the whole seconds. -/
def subsecond (d : Duration) : Nat :=
  d.nanoseconds % 1000000000

/-- The sum of two durations. -/
def add (d e : Duration) : Duration :=
  ⟨d.nanoseconds + e.nanoseconds⟩

/-- The time from `start` to `stop`, zero if `stop` comes first. -/
def since (stop start : Duration) : Duration :=
  ⟨stop.nanoseconds - start.nanoseconds⟩

/-- Whether no time is left to wait once `elapsed` of `limit` has gone by. -/
def reached (elapsed limit : Duration) : Bool :=
  limit.nanoseconds ≤ elapsed.nanoseconds

/-- `count / 10 ^ places` as a decimal, without trailing zeros after the point and without the
point if nothing follows it. -/
def decimal (count places : Nat) : String :=
  let whole := toString (count / Nat.pow 10 places)
  let digits := (toString (count % Nat.pow 10 places)).toList
  let fraction := List.replicate (places - digits.length) '0' ++ digits
  let shown := (fraction.reverse.dropWhile (· = '0')).reverse
  if shown.isEmpty then whole else whole ++ "." ++ String.ofList shown

/-- A duration as text, in seconds, milliseconds, microseconds or nanoseconds. -/
def text (d : Duration) : String :=
  if 1000000000 ≤ d.nanoseconds then decimal d.nanoseconds 9 ++ "s"
  else if 1000000 ≤ d.nanoseconds then decimal d.nanoseconds 6 ++ "ms"
  else if 1000 ≤ d.nanoseconds then decimal d.nanoseconds 3 ++ "µs"
  else decimal d.nanoseconds 0 ++ "ns"

end Duration

end Reflash
