import Reflash.Link.Config
import Reflash.Log
import Reflash.Stack
import Reflash.Transport

/-!
# Links

A link makes a transport of a stack: it keeps the stack going until a payload is on the wire or
has come in, a fault shows, or time is up. Time is a value of the link; it goes on by what calls
on the stack take and by the delays between two steps.

Every send starts a new request. It lowers the fault flag and drops the payloads that still wait
in the stack, so that neither an old fault nor a late reply is taken for one of the new request.

The loops end when the stack or the clock says so, which need not happen at all. They take the
number of rounds that they may use, and give nothing when these are used up; more rounds never
change an outcome.
-/

namespace Reflash

/-- A stack in use as a transport. -/
structure Link (σ : Type) where
  /-- The stack. -/
  stack : σ
  /-- The flag that the stack raises. -/
  fault : Fault.Flag
  /-- The settings. -/
  config : Link.Config
  /-- The present time. -/
  clock : Duration

namespace Link

variable {σ : Type}

/-- Makes one call on the stack. Time goes on by what the call took, and the flag is raised for
the reasons that came up. -/
def call {α : Type} (link : Link σ) (act : Surroundings → σ → Outcome σ α) : α × Link σ :=
  let outcome := act { now := link.clock, fault := link.fault } link.stack
  (outcome.value, { link with
    stack := outcome.state
    fault := link.fault.raiseAll outcome.raised
    clock := link.clock.add outcome.elapsed })

/-- Wraps a stack and tells it how many wait frames to accept. -/
def withConfig (stack : Stack σ) (state : σ) (fault : Fault.Flag) (config : Config) : Link σ :=
  (call { stack := state, fault, config, clock := .zero }
    (stack.setMaxWaitFrames config.maxWaitFrames)).2

/-- Wraps a stack with the standard settings. -/
def new (stack : Stack σ) (state : σ) (fault : Fault.Flag) : Link σ :=
  withConfig stack state fault .standard

/-- The reason given for a fault whose reason has been taken away. -/
def unknownReason : String := "stack reported an error"

/-- Turns a raised flag into an error. The reason is taken away; the flag stays raised. -/
def checkFault (link : Link σ) : Except Error Unit × Link σ :=
  if link.fault.isRaised then
    (.error (.transportFault (link.fault.reason?.getD unknownReason)),
      { link with fault := link.fault.withoutReason })
  else (.ok (), link)

/-- Waits between two steps: for the fixed delay if there is one, else for as long as the stack
suggests. -/
def idle (stack : Stack σ) (link : Link σ) : Link σ :=
  match link.config.pollInterval with
  | some delay => { link with clock := link.clock.add delay }
  | none =>
    let (delay, link) := link.call stack.sleepTime
    { link with clock := link.clock.add delay }

/-- Drops waiting payloads until the stack has none to give. -/
def discardStale (stack : Stack σ) : Nat → Link σ → Option (List Log.Record × Link σ)
  | 0, _ => none
  | rounds + 1, link =>
    match link.call stack.available with
    | (false, link) => some ([], link)
    | (true, link) =>
      match link.call stack.recv with
      | (none, link) => some ([], link)
      | (some payload, link) =>
        match discardStale stack rounds link with
        | none => none
        | some (log, link) =>
          some (⟨.debug, s!"Dropping stale payload of {payload.length} bytes"⟩ :: log, link)

/-- Keeps the stack going until the payload of `size` bytes, queued at `start`, is out. -/
def transmit (stack : Stack σ) (size : Nat) (start : Duration) :
    Nat → Link σ → Option (Except Error Unit × Link σ)
  | 0, _ => none
  | rounds + 1, link =>
    match link.call stack.transmitting with
    | (false, link) => some link.checkFault
    | (true, link) =>
      match link.checkFault with
      | (.error e, link) => some (.error e, link)
      | (.ok (), link) =>
        if (link.clock.since start).reached link.config.sendTimeout then
          some (.error (.timeout (.transmission size link.config.sendTimeout)), link)
        else
          match link.call stack.process with
          | (.error e, link) => some (.error e, link)
          | (.ok (), link) => transmit stack size start rounds (link.idle stack)

/-- Sends one payload. -/
def send (stack : Stack σ) (rounds : Nat) (link : Link σ) (payload : Bytes) :
    Option (Reply (Link σ) Unit) :=
  match discardStale stack rounds { link with fault := link.fault.clear } with
  | none => none
  | some (dropped, link) =>
    let log := dropped ++ [⟨.trace, s!"Link send: {payload.length} bytes"⟩]
    match link.call (stack.send payload) with
    | (.error e, link) => some { result := .error e, state := link, log }
    | (.ok (), link) =>
      match transmit stack payload.length link.clock rounds link with
      | none => none
      | some (result, link) => some { result, state := link, log }

/-- Keeps the stack going until a payload has come in or `timeout` has gone by since `start`. -/
def await (stack : Stack σ) (timeout start : Duration) :
    Nat → Link σ → Option (Reply (Link σ) (Option Bytes))
  | 0, _ => none
  | rounds + 1, link =>
    match poll link with
    | (some payload, link) =>
      some { result := .ok (some payload), state := link,
             log := [⟨.trace, s!"Link receive: {payload.length} bytes"⟩] }
    | (none, link) =>
      match link.checkFault with
      | (.error e, link) => some { result := .error e, state := link, log := [] }
      | (.ok (), link) =>
        if (link.clock.since start).reached timeout then
          some { result := .ok none, state := link,
                 log := [⟨.debug, "Nothing received within " ++ timeout.text⟩] }
        else
          match link.call stack.process with
          | (.error e, link) => some { result := .error e, state := link, log := [] }
          | (.ok (), link) => await stack timeout start rounds (link.idle stack)
where
  /-- Takes a payload if the stack says that it has one. -/
  poll (link : Link σ) : Option Bytes × Link σ :=
    match link.call stack.available with
    | (false, link) => (none, link)
    | (true, link) => link.call stack.recv

/-- Waits for one payload. -/
def receive (stack : Stack σ) (rounds : Nat) (link : Link σ) (timeout : Duration) :
    Option (Reply (Link σ) (Option Bytes)) :=
  await stack timeout link.clock rounds link

/-- The transport that a stack makes. Each loop may use so many rounds. -/
def transport (stack : Stack σ) (rounds : Nat) : Transport (Link σ) where
  send := send stack rounds
  receive := receive stack rounds

/-- The description of a link. -/
def describe (link : Link σ) : String :=
  Text.describeFields "Link" [
    ("config", link.config.describe),
    ("fault", Text.describeBool link.fault.isRaised)] true

end Link

end Reflash
