import Reflash.Stack

/-!
# A stack on a test rig

A rig is a stack whose behaviour is laid down beforehand. A payload takes a number of process
steps to go out, either the same for every payload or one for each segment of a given size. At
chosen sends and process steps, incidents happen: the fault flag is raised, a payload comes in,
time passes, the transmission is dropped, or the call ends with an error. A rig can also answer
information requests by itself.
-/

namespace Reflash.Simulation

/-- What happens at one send or process step. The parts that are there happen in the order in
which they are listed here. -/
structure Incident where
  /-- The process step at which it happens, counted from one. -/
  atProcess : Option Nat
  /-- The send at which it happens, counted from one. -/
  atSend : Option Nat
  /-- The reason for which the flag is raised. -/
  raise : Option String
  /-- What is put into the inbox: a payload, or an entry that holds none. -/
  deliver : Option (Option Bytes)
  /-- The time that passes. -/
  delay : Duration
  /-- Whether the transmission in progress is dropped. -/
  drop : Bool
  /-- The error that the call ends with. -/
  error : Option Error
  deriving DecidableEq, Repr

/-- A stack on a test rig. -/
structure Rig where
  /-- The process steps that a payload takes if segments do not count. -/
  steps : Nat
  /-- The size of a segment; zero if segments do not count. -/
  segment : Nat
  /-- What happens when. -/
  incidents : List Incident
  /-- The reply to an information request. -/
  info : Option Bytes
  /-- The time that each look at the stack takes. -/
  pollDelay : Duration
  /-- The delay that the rig suggests between two steps. -/
  suggestedDelay : Duration
  /-- Whether the rig has neither a delay of its own nor a limit on wait frames. -/
  plain : Bool
  /-- What waits to be taken. -/
  inbox : List (Option Bytes)
  /-- The number of sends so far. -/
  sends : Nat
  /-- The number of process steps so far. -/
  processed : Nat
  /-- The process steps that the payload in transmission still takes. -/
  pending : Nat
  /-- The payload queued last. -/
  current : Bytes
  /-- The payloads whose transmission was completed, the last one first. -/
  completed : List Bytes
  /-- The limit on wait frames that was set last. -/
  maxWaitFrames : Option UInt32
  deriving DecidableEq, Repr

namespace Rig

/-- A rig on which a payload takes so many process steps and nothing else is laid down. -/
def quiet (steps : Nat) : Rig where
  steps
  segment := 0
  incidents := []
  info := none
  pollDelay := .zero
  suggestedDelay := .zero
  plain := true
  inbox := []
  sends := 0
  processed := 0
  pending := 0
  current := []
  completed := []
  maxWaitFrames := none

/-- The process steps that a payload takes. -/
def stepsFor (rig : Rig) (payload : Bytes) : Nat :=
  if rig.segment = 0 then rig.steps
  else max 1 ((payload.length + (rig.segment - 1)) / rig.segment)

/-- Whether a payload is an information request, by its number. -/
def isInfoRequest (payload : Bytes) : Bool :=
  payload.take 4 = [0, 0, 0, 0]

/-- Completes the transmission in progress. -/
def complete (rig : Rig) : Rig :=
  { rig with
    inbox := match rig.info with
      | some info =>
        if isInfoRequest rig.current then rig.inbox ++ [some info] else rig.inbox
      | none => rig.inbox
    completed := rig.current :: rig.completed }

/-- Lets one incident happen. -/
def happen (incident : Incident) (rig : Rig) : Outcome Rig (Except Error Unit) where
  value := match incident.error with
    | some e => .error e
    | none => .ok ()
  state := { rig with
    inbox := rig.inbox ++ incident.deliver.toList
    pending := if incident.drop then 0 else rig.pending }
  raised := incident.raise.toList
  elapsed := incident.delay

/-- Lets incidents happen one after the other, up to the first that ends the call. -/
def happenAll : List Incident → Rig → Outcome Rig (Except Error Unit)
  | [], rig => { value := .ok (), state := rig }
  | incident :: rest, rig =>
    let first := happen incident rig
    match first.value with
    | .error _ => first
    | .ok () =>
      let others := happenAll rest first.state
      { value := others.value
        state := others.state
        raised := first.raised ++ others.raised
        elapsed := first.elapsed.add others.elapsed }

/-- Queues a payload. -/
def send (payload : Bytes) (rig : Rig) : Outcome Rig (Except Error Unit) :=
  let steps := rig.stepsFor payload
  let rig := { rig with sends := rig.sends + 1, pending := steps, current := payload }
  let outcome := happenAll (rig.incidents.filter (·.atSend = some rig.sends)) rig
  match outcome.value with
  | .error _ => outcome
  | .ok () =>
    if steps = 0 then { outcome with state := outcome.state.complete } else outcome

/-- Runs one step. -/
def process (rig : Rig) : Outcome Rig (Except Error Unit) :=
  let rig := { rig with processed := rig.processed + 1 }
  let outcome := happenAll (rig.incidents.filter (·.atProcess = some rig.processed)) rig
  match outcome.value with
  | .error _ => outcome
  | .ok () =>
    match outcome.state.pending with
    | 0 => outcome
    | pending + 1 =>
      let state := { outcome.state with pending }
      { outcome with state := if pending = 0 then state.complete else state }

/-- Takes the first entry of the inbox. -/
def recv (rig : Rig) : Outcome Rig (Option Bytes) :=
  match rig.inbox with
  | [] => { value := none, state := rig }
  | entry :: rest => { value := entry, state := { rig with inbox := rest } }

/-- The rig as a stack. -/
def stack : Stack Rig where
  send payload _ rig := rig.send payload
  transmitting _ rig :=
    { value := rig.pending ≠ 0, state := rig, elapsed := rig.pollDelay }
  process _ rig := rig.process
  available _ rig :=
    { value := !rig.inbox.isEmpty, state := rig, elapsed := rig.pollDelay }
  recv _ rig := rig.recv
  sleepTime _ rig :=
    { value := if rig.plain then Stack.defaultSleepTime else rig.suggestedDelay, state := rig }
  setMaxWaitFrames frames _ rig :=
    { value := ()
      state := if rig.plain then rig else { rig with maxWaitFrames := some frames } }

/-- The calls that a rig shows: one without a delay of its own shows neither being asked for it
nor being told a limit. -/
def shows (rig : Rig) : Stack.Call → Bool
  | .sleepTime _ => !rig.plain
  | .setMaxWaitFrames _ => !rig.plain
  | _ => true

end Rig

end Reflash.Simulation
