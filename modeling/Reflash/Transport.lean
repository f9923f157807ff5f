import Reflash.Bytes.Basic
import Reflash.Duration
import Reflash.Error
import Reflash.Log

/-!
# Transports

A transport sends and receives whole payloads. It is a state machine: each call gets the state and
gives a reply with the state afterwards. A call may also never return, which is a missing reply.
-/

namespace Reflash

/-- What comes back from a call on a transport. -/
structure Reply (τ α : Type) where
  /-- The value, or the error that the call ended with. -/
  result : Except Error α
  /-- The transport afterwards. -/
  state : τ
  /-- The records made during the call. -/
  log : List Log.Record

/-- Sends and receives whole payloads, in states of type `τ`. -/
structure Transport (τ : Type) where
  /-- Sends one payload and comes back when it is on the wire. -/
  send : τ → Bytes → Option (Reply τ Unit)
  /-- Waits for one payload. No payload within the timeout is not an error. -/
  receive : τ → Duration → Option (Reply τ (Option Bytes))

/-- Every call on the transport returns. -/
def Transport.Returns {τ : Type} (transport : Transport τ) : Prop :=
  (∀ state payload, (transport.send state payload).isSome) ∧
    ∀ state timeout, (transport.receive state timeout).isSome

end Reflash
