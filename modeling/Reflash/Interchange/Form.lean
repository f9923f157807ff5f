import Reflash.Duration
import Reflash.Interchange.Value

/-!
# Forms

A form says how the values of a type are written as plain values and read back. Reading is strict:
a number has to be an integer in range, and a text has to be a text.
-/

namespace Reflash.Interchange

/-- How the values of a type are written and read. -/
structure Form (α : Type) where
  write : α → Value
  read : Value → Option α

namespace Form

variable {α : Type}

/-- Natural numbers below a bound. -/
def below (bound : Nat) : Form Nat where
  write n := .int n
  read
    | .int (.ofNat n) => if n < bound then some n else none
    | _ => none

/-- Words of 16 bits. -/
def word16 : Form UInt16 where
  write w := .int w.toNat
  read v := ((below UInt16.size).read v).map UInt16.ofNat

/-- Words of 32 bits. -/
def word32 : Form UInt32 where
  write w := .int w.toNat
  read v := ((below UInt32.size).read v).map UInt32.ofNat

/-- Sizes and counts, which have 64 bits. -/
def size : Form Nat := below UInt64.size

/-- Texts. -/
def text : Form String where
  write s := .text s
  read
    | .text s => some s
    | _ => none

/-- Values that may be missing. -/
def optional (form : Form α) : Form (Option α) where
  write
    | none => .null
    | some a => form.write a
  read
    | .null => some none
    | v => (form.read v).map some

/-- Reads a field that has to be there. -/
def required (form : Form α) (field : Option Value) : Option α :=
  field.bind form.read

/-- Reads a field that may be missing. -/
def lenient (form : Form α) (field : Option Value) : Option (Option α) :=
  match field with
  | none => some none
  | some v => form.optional.read v

/-- Durations: whole seconds and nanoseconds. Nanoseconds that make up seconds are carried over,
and no other fields are allowed. -/
def duration : Form Duration where
  write d := .object [("secs", .int d.seconds), ("nanos", .int d.subsecond)]
  read v := do
    if let .object fields := v then
      guard (fields.all fun field => field.1 = "secs" || field.1 = "nanos")
    let [seconds, nanoseconds] ← v.fields? ["secs", "nanos"] | none
    let seconds ← required size seconds
    let nanoseconds ← required (below UInt32.size) nanoseconds
    let d := Duration.ofParts seconds nanoseconds
    if d.seconds < UInt64.size then return d else none

end Form

end Reflash.Interchange
