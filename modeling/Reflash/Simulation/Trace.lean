import Reflash.Simulation.Rig
import Reflash.Text.Quoted

/-!
# The records of a rig

The calls made on a rig, as text, and the payloads that it has completed, both since the records
were last emptied.
-/

namespace Reflash.Simulation

/-- A call as text. -/
def traceCall : Stack.Call → String
  | .send payload _ => s!"send({payload.length})"
  | .transmitting answer => "transmitting=" ++ Text.describeBool answer
  | .process _ => "process"
  | .available answer => "available=" ++ Text.describeBool answer
  | .recv (some payload) => s!"recv={payload.length}"
  | .recv none => "recv=none"
  | .sleepTime _ => "sleep_time"
  | .setMaxWaitFrames frames => s!"set_max_wait_frames({frames})"

/-- The calls made on a rig, as far as it shows them. -/
def trace (rig : Stack.Recorded Rig) : List String :=
  ((rig.entries.map (·.call)).filter rig.inner.shows).map traceCall

/-- The payloads that a rig has completed, in order. -/
def sent (rig : Stack.Recorded Rig) : List Bytes :=
  rig.inner.completed.reverse

/-- The rig with nothing in its records. -/
def forget (rig : Stack.Recorded Rig) : Stack.Recorded Rig :=
  { inner := { rig.inner with completed := [] }, newestFirst := [] }

end Reflash.Simulation
