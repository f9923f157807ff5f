import Reflash.Transport

/-!
# A transport that follows a script

To try a session out without a device, its transport can be told beforehand how each call ends. A
script lists the outcomes of the sends and of the receives to come. When a list is used up, sends
succeed and nothing is received.
-/

namespace Reflash.Simulation

/-- The outcomes of the calls to come. -/
structure Script where
  /-- For each send the error that it ends with, if any. -/
  sends : List (Option Error)
  /-- For each receive the error or what is received. -/
  receives : List (Except Error (Option Bytes))

namespace Script

/-- The outcome of the next send, and the script after it. -/
def nextSend (script : Script) : Except Error Unit × Script :=
  match script.sends with
  | [] => (.ok (), script)
  | none :: rest => (.ok (), { script with sends := rest })
  | some e :: rest => (.error e, { script with sends := rest })

/-- The outcome of the next receive, and the script after it. -/
def nextReceive (script : Script) : Except Error (Option Bytes) × Script :=
  match script.receives with
  | [] => (.ok none, script)
  | result :: rest => (result, { script with receives := rest })

/-- The transport whose calls end as the script says. -/
def transport : Transport Script where
  send script _ :=
    let (result, state) := script.nextSend
    some { result, state, log := [] }
  receive script _ :=
    let (result, state) := script.nextReceive
    some { result, state, log := [] }

end Script

end Reflash.Simulation
