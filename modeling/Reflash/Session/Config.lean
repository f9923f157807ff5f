import Reflash.Duration
import Reflash.Text.Quoted

/-!
# How a session behaves

The settings of a session, and their description.
-/

namespace Reflash.Session

/-- The settings of a session. -/
structure Config where
  /-- How long to wait for a response. -/
  responseTimeout : Duration
  deriving DecidableEq, Repr

namespace Config

/-- Two seconds for a response. -/
def standard : Config where
  responseTimeout := .ofSeconds 2

/-- The description of the settings. -/
def describe (config : Config) : String :=
  Text.describeFields "SessionConfig"
    [("response_timeout", config.responseTimeout.text)] false

end Config

end Reflash.Session
