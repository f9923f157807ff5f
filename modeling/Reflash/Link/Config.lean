import Reflash.Duration
import Reflash.Text.Quoted

/-!
# How a link behaves

The settings of a link, and their description.
-/

namespace Reflash.Link

/-- The settings of a link. -/
structure Config where
  /-- How many wait frames the stack accepts before it gives up. -/
  maxWaitFrames : UInt32
  /-- How long one transmission may take. -/
  sendTimeout : Duration
  /-- A fixed delay between two steps of the stack. Without one, the stack is asked. -/
  pollInterval : Option Duration
  deriving DecidableEq, Repr

namespace Config

/-- Five wait frames, ten seconds for a transmission, and the stack's own delay. -/
def standard : Config where
  maxWaitFrames := 5
  sendTimeout := .ofSeconds 10
  pollInterval := none

/-- The description of the settings. -/
def describe (config : Config) : String :=
  Text.describeFields "LinkConfig" [
    ("max_wait_frames", toString config.maxWaitFrames),
    ("send_timeout", config.sendTimeout.text),
    ("poll_interval", Text.describeOption Duration.text config.pollInterval)] false

end Config

end Reflash.Link
