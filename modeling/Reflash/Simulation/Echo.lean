import Reflash.Stack

/-!
# A stack that answers at once

The simplest stack that is of any use: what is sent is out at once, and every payload is answered
with the same one.
-/

namespace Reflash.Simulation

/-- A stack that takes every payload at once and has an answer to it. -/
def echo (answer : Bytes) : Stack (List Bytes) where
  send _ _ waiting := { value := .ok (), state := waiting ++ [answer] }
  transmitting _ waiting := { value := false, state := waiting }
  process _ waiting := { value := .ok (), state := waiting }
  available _ waiting := { value := !waiting.isEmpty, state := waiting }
  recv _ waiting := { value := waiting.head?, state := waiting.tail }
  sleepTime _ waiting := { value := Stack.defaultSleepTime, state := waiting }
  setMaxWaitFrames _ _ waiting := { value := (), state := waiting }

end Reflash.Simulation
