import Reflash.Link.Basic

/-!
# Watching a link

Keeping the calls made on a stack does not change them. A link over any stack does what it does
over the recorded stack, with the same results, the same records and the same states: `send_unwatched`
and `receive_unwatched` take the calls kept away from an operation, `exists_send_watched` and
`exists_receive_watched` put them back. So what is found out about the history of a recorded stack is
true of every stack.
-/

namespace Reflash

open Stack

variable {σ α : Type} {stack : Stack σ}

namespace Link

/-- The link, with the calls `made` kept beside its stack. -/
def watched (made : List (Entry σ)) (link : Link σ) : Link (Recorded σ) :=
  { link with stack := { inner := link.stack, newestFirst := made.reverse } }

/-- The link without the calls kept beside its stack. -/
def unwatched (link : Link (Recorded σ)) : Link σ :=
  { link with stack := link.stack.inner }

/-- Calls that were kept can be taken away again. -/
@[simp]
theorem unwatched_watched (made : List (Entry σ)) (link : Link σ) :
    (link.watched made).unwatched = link :=
  rfl

/-- The calls kept are those that were kept. -/
@[simp]
theorem entries_watched (made : List (Entry σ)) (link : Link σ) :
    (link.watched made).stack.entries = made :=
  List.reverse_reverse made

/-- Nothing is lost if the calls kept are taken away and put back. -/
@[simp]
theorem watched_unwatched (link : Link (Recorded σ)) :
    link.unwatched.watched link.stack.entries = link := by
  have hnewest : link.stack.entries.reverse = link.stack.newestFirst :=
    List.reverse_reverse _
  unfold watched
  rw [hnewest]
  rfl

end Link

/-- A reply without the calls kept. -/
def Reply.unwatched (reply : Reply (Link (Recorded σ)) α) : Reply (Link σ) α where
  result := reply.result
  state := reply.state.unwatched
  log := reply.log

namespace Link

/-- A call gives what it gives while it is kept. -/
theorem call_unwatched {call : α → Call} {act : Surroundings → σ → Outcome σ α}
    {link next : Link (Recorded σ)} {value : α} (h : link.call (note call act) = (value, next)) :
    link.unwatched.call act = (value, next.unwatched) := by
  obtain ⟨rfl, rfl⟩ := Prod.mk.inj h
  rfl

/-- The flag is seen and turned into an error in the same way. -/
theorem checkFault_unwatched (link : Link (Recorded σ)) :
    link.unwatched.checkFault = (link.checkFault.1, link.checkFault.2.unwatched) := by
  by_cases h : link.fault.isRaised = true
  · have hwatched : link.checkFault = _ := if_pos h
    have hunwatched : link.unwatched.checkFault = _ := if_pos h
    rw [hwatched, hunwatched]
    rfl
  · have hwatched : link.checkFault = _ := if_neg h
    have hunwatched : link.unwatched.checkFault = _ := if_neg h
    rw [hwatched, hunwatched]

/-- The pause between two steps is the same. -/
theorem idle_unwatched (link : Link (Recorded σ)) :
    (link.idle stack.recorded).unwatched = link.unwatched.idle stack := by
  unfold idle
  have hconfig : link.unwatched.config = link.config := rfl
  rw [hconfig]
  cases link.config.pollInterval <;> rfl

/-- The same payloads are dropped. -/
theorem discardStale_unwatched (rounds : Nat) (link : Link (Recorded σ)) :
    discardStale stack rounds link.unwatched =
      (discardStale stack.recorded rounds link).map fun dropped =>
        (dropped.1, dropped.2.unwatched) := by
  induction rounds generalizing link with
  | zero => rfl
  | succ rounds ih =>
      unfold discardStale
      rcases hlook : link.call stack.recorded.available with ⟨_ | _, looked⟩
      · rw [call_unwatched hlook]
        rfl
      · rw [call_unwatched hlook]
        rcases htake : looked.call stack.recorded.recv with ⟨_ | payload, next⟩
        · simp only [call_unwatched htake, htake, Option.map_some]
        · simp only [call_unwatched htake, htake, ih]
          cases discardStale stack.recorded rounds next <;> rfl

/-- A transmission ends in the same way. -/
theorem transmit_unwatched (size : Nat) (start : Duration) (rounds : Nat)
    (link : Link (Recorded σ)) :
    transmit stack size start rounds link.unwatched =
      (transmit stack.recorded size start rounds link).map fun outcome =>
        (outcome.1, outcome.2.unwatched) := by
  induction rounds generalizing link with
  | zero => rfl
  | succ rounds ih =>
      unfold transmit
      rcases hlook : link.call stack.recorded.transmitting with ⟨_ | _, looked⟩
      · simp only [call_unwatched hlook, checkFault_unwatched, Option.map_some]
      · simp only [call_unwatched hlook, checkFault_unwatched]
        rcases looked.checkFault with ⟨error | _, checked⟩
        · rfl
        · dsimp only
          -- clock and configuration are no part of what is kept, so time runs alike
          by_cases htime : (checked.clock.since start).reached checked.config.sendTimeout = true
          · have hunwatched : (checked.unwatched.clock.since start).reached
                checked.unwatched.config.sendTimeout = true := htime
            rw [if_pos htime, if_pos hunwatched]
            rfl
          · have hunwatched : ¬ (checked.unwatched.clock.since start).reached
                checked.unwatched.config.sendTimeout = true := htime
            rw [if_neg htime, if_neg hunwatched]
            rcases hstep : checked.call stack.recorded.process with ⟨error | _, stepped⟩
            · simp only [call_unwatched hstep, Option.map_some]
            · simp only [call_unwatched hstep, ← idle_unwatched, ih]

/-- A send on a stack is the send on the recorded stack, without the calls kept. -/
theorem send_unwatched (rounds : Nat) (link : Link (Recorded σ)) (payload : Bytes) :
    send stack rounds link.unwatched payload =
      (send stack.recorded rounds link payload).map Reply.unwatched := by
  unfold send
  have hcleared : ({ link.unwatched with fault := link.unwatched.fault.clear } : Link σ) =
      ({ link with fault := link.fault.clear } : Link (Recorded σ)).unwatched :=
    rfl
  rw [hcleared, discardStale_unwatched]
  cases discardStale stack.recorded rounds { link with fault := link.fault.clear } with
  | none => rfl
  | some dropped =>
      obtain ⟨log, ready⟩ := dropped
      rcases hqueue : ready.call (stack.recorded.send payload) with ⟨error | _, queued⟩
      · simp only [Option.map_some, call_unwatched hqueue, hqueue]
        rfl
      · simp only [Option.map_some, call_unwatched hqueue, hqueue]
        have hclock : queued.unwatched.clock = queued.clock := rfl
        rw [hclock, transmit_unwatched]
        cases transmit stack.recorded payload.length queued.clock rounds queued <;> rfl

/-- A poll finds the same payload. -/
theorem poll_unwatched (link : Link (Recorded σ)) :
    await.poll stack link.unwatched =
      ((await.poll stack.recorded link).1, (await.poll stack.recorded link).2.unwatched) := by
  unfold await.poll
  rcases hlook : link.call stack.recorded.available with ⟨_ | _, looked⟩
  · rw [call_unwatched hlook]
  · rw [call_unwatched hlook]
    exact call_unwatched rfl

/-- A wait ends in the same way. -/
theorem await_unwatched (timeout start : Duration) (rounds : Nat) (link : Link (Recorded σ)) :
    await stack timeout start rounds link.unwatched =
      (await stack.recorded timeout start rounds link).map Reply.unwatched := by
  induction rounds generalizing link with
  | zero => rfl
  | succ rounds ih =>
      unfold await
      simp only [poll_unwatched]
      rcases await.poll stack.recorded link with ⟨_ | payload, polled⟩
      · simp only [checkFault_unwatched]
        rcases polled.checkFault with ⟨error | _, checked⟩
        · rfl
        · dsimp only
          by_cases htime : (checked.clock.since start).reached timeout = true
          · have hunwatched : (checked.unwatched.clock.since start).reached timeout = true := htime
            rw [if_pos htime, if_pos hunwatched]
            rfl
          · have hunwatched : ¬ (checked.unwatched.clock.since start).reached timeout = true :=
              htime
            rw [if_neg htime, if_neg hunwatched]
            rcases hstep : checked.call stack.recorded.process with ⟨error | _, stepped⟩
            · simp only [call_unwatched hstep, Option.map_some]
              rfl
            · simp only [call_unwatched hstep, ← idle_unwatched, ih]
      · rfl

/-- A receive on a stack is the receive on the recorded stack, without the calls kept. -/
theorem receive_unwatched (rounds : Nat) (link : Link (Recorded σ)) (timeout : Duration) :
    receive stack rounds link.unwatched timeout =
      (receive stack.recorded rounds link timeout).map Reply.unwatched :=
  await_unwatched timeout link.clock rounds link

/-! ## Back from a plain stack to a recorded one -/

/-- A reply that is there without the calls kept is there with them. -/
theorem exists_watched_of_unwatched {outcome : Option (Reply (Link (Recorded σ)) α)}
    {reply : Reply (Link σ) α} (h : outcome.map Reply.unwatched = some reply) :
    ∃ all, outcome = some {
      result := reply.result
      state := reply.state.watched all
      log := reply.log } := by
  obtain ⟨recorded, rfl, rfl⟩ := Option.map_eq_some_iff.mp h
  refine ⟨recorded.state.stack.entries, ?_⟩
  show some recorded = some { recorded with
    state := recorded.state.unwatched.watched recorded.state.stack.entries }
  rw [watched_unwatched]

/-- What a send gives is what it gives while its calls are kept behind those `made` before. -/
theorem exists_send_watched (made : List (Entry σ)) {rounds : Nat} {link : Link σ}
    {payload : Bytes} {reply : Reply (Link σ) Unit}
    (h : send stack rounds link payload = some reply) :
    ∃ all, send stack.recorded rounds (link.watched made) payload = some {
      result := reply.result
      state := reply.state.watched all
      log := reply.log } := by
  rw [← unwatched_watched made link, send_unwatched] at h
  exact exists_watched_of_unwatched h

/-- What a receive gives is what it gives while its calls are kept behind those `made` before. -/
theorem exists_receive_watched (made : List (Entry σ)) {rounds : Nat} {link : Link σ}
    {timeout : Duration} {reply : Reply (Link σ) (Option Bytes)}
    (h : receive stack rounds link timeout = some reply) :
    ∃ all, receive stack.recorded rounds (link.watched made) timeout = some {
      result := reply.result
      state := reply.state.watched all
      log := reply.log } := by
  rw [← unwatched_watched made link, receive_unwatched] at h
  exact exists_watched_of_unwatched h

end Link

end Reflash
