import Reflash.Bytes.Basic
import Reflash.Duration
import Reflash.Error
import Reflash.Fault.Flag

/-!
# Transport stacks

A stack cuts payloads into segments, moves them in and out step by step, and puts what arrives
together again. It does nothing on its own: whoever uses it has to keep calling `process`. It is a
state machine. During a call it sees the time and the fault flag, may take time, and may raise the
flag for any number of reasons; it can neither lower the flag nor take a reason away.

`Stack.recorded` keeps, beside any stack, the history of the calls made on it.
-/

namespace Reflash

/-- What a stack sees of its surroundings during a call. -/
structure Surroundings where
  /-- The time at which the call was made. -/
  now : Duration
  /-- The fault flag. -/
  fault : Fault.Flag
  deriving DecidableEq, Repr

/-- What comes back from a call on a stack. -/
structure Outcome (σ α : Type) where
  value : α
  /-- The stack afterwards. -/
  state : σ
  /-- The reasons for which the flag was raised, in order. -/
  raised : List String := []
  /-- The time that the call took. -/
  elapsed : Duration := .zero

/-- A stack with states of type `σ`. -/
structure Stack (σ : Type) where
  /-- Queues one payload for transmission. -/
  send : Bytes → Surroundings → σ → Outcome σ (Except Error Unit)
  /-- Whether a queued payload is still being transmitted. -/
  transmitting : Surroundings → σ → Outcome σ Bool
  /-- Runs one step. -/
  process : Surroundings → σ → Outcome σ (Except Error Unit)
  /-- Whether a payload is ready to be taken. -/
  available : Surroundings → σ → Outcome σ Bool
  /-- Takes the next payload. -/
  recv : Surroundings → σ → Outcome σ (Option Bytes)
  /-- The delay that the stack suggests between two steps. -/
  sleepTime : Surroundings → σ → Outcome σ Duration
  /-- Limits the number of wait frames accepted from the peer. -/
  setMaxWaitFrames : UInt32 → Surroundings → σ → Outcome σ Unit

namespace Stack

/-- The delay of a stack that suggests none. -/
def defaultSleepTime : Duration := .ofMilliseconds 1

/-- A call on a stack, with what came back. -/
inductive Call where
  | send (payload : Bytes) (result : Except Error Unit)
  | transmitting (answer : Bool)
  | process (result : Except Error Unit)
  | available (answer : Bool)
  | recv (payload : Option Bytes)
  | sleepTime (delay : Duration)
  | setMaxWaitFrames (frames : UInt32)

/-- A call that was made on a stack. -/
structure Entry (σ : Type) where
  call : Call
  /-- The stack when the call was made. -/
  before : σ
  /-- The stack when the call came back. -/
  after : σ
  /-- The reasons for which the flag was raised during the call, in order. -/
  raised : List String

/-- A stack with the calls made on it. -/
structure Recorded (σ : Type) where
  /-- The stack itself. -/
  inner : σ
  /-- The calls, the last one first. -/
  newestFirst : List (Entry σ)

/-- The calls in the order in which they were made. -/
def Recorded.entries {σ : Type} (r : Recorded σ) : List (Entry σ) :=
  r.newestFirst.reverse

/-- Notes a call beside the stack that it was made on. -/
def note {σ α : Type} (call : α → Call) (act : Surroundings → σ → Outcome σ α)
    (around : Surroundings) (r : Recorded σ) : Outcome (Recorded σ) α :=
  let outcome := act around r.inner
  let entry : Entry σ := {
    call := call outcome.value
    before := r.inner
    after := outcome.state
    raised := outcome.raised }
  { value := outcome.value
    state := { inner := outcome.state, newestFirst := entry :: r.newestFirst }
    raised := outcome.raised
    elapsed := outcome.elapsed }

/-- The stack that behaves as `stack` does and keeps the calls made on it. -/
def recorded {σ : Type} (stack : Stack σ) : Stack (Recorded σ) where
  send payload := note (.send payload) (stack.send payload)
  transmitting := note .transmitting stack.transmitting
  process := note .process stack.process
  available := note .available stack.available
  recv := note .recv stack.recv
  sleepTime := note .sleepTime stack.sleepTime
  setMaxWaitFrames frames := note (fun _ => .setMaxWaitFrames frames)
    (stack.setMaxWaitFrames frames)

end Stack

end Reflash
