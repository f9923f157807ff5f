import Reflash.DeviceInfo
import Reflash.Error
import Reflash.Log
import Reflash.Session.Config
import Reflash.Session.Progress
import Reflash.Transport

/-!
# What a session does

An activity is something that a session does over a transport. It may change the session, and it
lists, in order, everything that can be noticed from outside: the records made, the progress
reported, and the calls on the transport with their results. An activity in which a call on the
transport never returns has no outcome.
-/

namespace Reflash

/-- An update session over a transport with states of type `τ`. -/
structure Session (τ : Type) where
  /-- The state of the transport. -/
  transport : τ
  /-- The settings. -/
  config : Session.Config
  /-- Where the session is. -/
  phase : Phase
  /-- The progress of the upgrade that the session is in, or was in last. -/
  progress : Progress
  /-- What the last query found out. -/
  deviceInfo : Option DeviceInfo

namespace Session

/-- Something that can be noticed from outside. -/
inductive Event where
  /-- A record was made. -/
  | record (entry : Log.Record)
  /-- So many of all pages were reported as sent. -/
  | progress (sent total : Nat)
  /-- A payload was handed to the transport. -/
  | send (payload : Bytes) (result : Except Error Unit)
  /-- The transport was asked for a payload. -/
  | receive (timeout : Duration) (result : Except Error (Option Bytes))

/-- How an activity ends. -/
structure Episode (τ α : Type) where
  value : α
  /-- The session afterwards. -/
  session : Session τ
  /-- What could be noticed, in order. -/
  events : List Event

/-- Something that a session does. -/
def Activity (τ α : Type) : Type :=
  Session τ → Option (Episode τ α)

namespace Activity

variable {τ α β : Type}

/-- The activity that does nothing. -/
def done (value : α) : Activity τ α := fun session =>
  some { value, session, events := [] }

/-- One activity after another. -/
def andThen (first : Activity τ α) (next : α → Activity τ β) : Activity τ β := fun session =>
  match first session with
  | none => none
  | some one =>
    match next one.value one.session with
    | none => none
    | some two => some { two with events := one.events ++ two.events }

instance : Monad (Activity τ) where
  pure := done
  bind := andThen

/-- Looks at the session. -/
def current : Activity τ (Session τ) := fun session =>
  some { value := session, session, events := [] }

/-- Changes the session. -/
def change (f : Session τ → Session τ) : Activity τ Unit := fun session =>
  some { value := (), session := f session, events := [] }

/-- Lets one thing be noticed. -/
def notice (event : Event) : Activity τ Unit := fun session =>
  some { value := (), session, events := [event] }

/-- Makes a record. -/
def log (level : Log.Level) (text : String) : Activity τ Unit :=
  notice (.record { level, text })

/-- Enters a phase. -/
def enter (phase : Phase) : Activity τ Unit :=
  change fun session => { session with phase }

/-- Hands a payload to the transport. -/
def send (transport : Transport τ) (payload : Bytes) : Activity τ (Except Error Unit) :=
  fun session =>
    match transport.send session.transport payload with
    | none => none
    | some reply => some {
        value := reply.result
        session := { session with transport := reply.state }
        events := reply.log.map .record ++ [.send payload reply.result] }

/-- Asks the transport for a payload. -/
def receive (transport : Transport τ) (timeout : Duration) :
    Activity τ (Except Error (Option Bytes)) := fun session =>
  match transport.receive session.transport timeout with
  | none => none
  | some reply => some {
      value := reply.result
      session := { session with transport := reply.state }
      events := reply.log.map .record ++ [.receive timeout reply.result] }

end Activity

end Session

end Reflash
