import Mathlib.Data.List.ReduceOption
import Mathlib.Data.List.TakeWhile
import Reflash.Proofs.Link.History
import Reflash.Simulation.Echo
import Reflash.Simulation.Rig

/-!
# Inboxes

What has come in waits in the stack until it is taken. `Stack.Inbox` says of a stack that what
waits is a queue: entries are put in at the end, by `send` and `process` only, and taken out in
front, by `recv` only. An entry may be empty.

The one law needed of such a stack is `Inbox.waiting_arrivals`: whatever calls are made, the
payloads that wait before them and those that arrive during them are those that are taken in them
and those that wait afterwards, in the same order.
-/

namespace Reflash

variable {σ : Type} {stack : Stack σ}

namespace Stack

/-- A view of the states of a stack as queues. -/
structure Inbox (stack : Stack σ) where
  /-- What waits, what is taken next first. An entry may hold no payload. -/
  entries : σ → List (Option Bytes)
  send_grows : ∀ payload around state,
    entries state <+: entries (stack.send payload around state).state
  process_grows : ∀ around state, entries state <+: entries (stack.process around state).state
  transmitting_keeps : ∀ around state,
    entries (stack.transmitting around state).state = entries state
  sleepTime_keeps : ∀ around state, entries (stack.sleepTime around state).state = entries state
  available_keeps : ∀ around state, entries (stack.available around state).state = entries state
  available_eq : ∀ around state,
    (stack.available around state).value = !(entries state).isEmpty
  recv_pops : ∀ around state, entries (stack.recv around state).state = (entries state).tail
  recv_eq : ∀ around state, (stack.recv around state).value = (entries state).head?.join

/-- Whenever the stack says that there is something to take, there is a payload. -/
def Forthcoming (stack : Stack σ) : Prop :=
  ∀ around state, (stack.available around state).value = true →
    (stack.recv around state).value ≠ none

namespace Inbox

variable (inbox : stack.Inbox)

/-- The payloads that wait. -/
def waiting (state : σ) : List Bytes :=
  (inbox.entries state).reduceOption

/-- The payloads that wait behind an empty entry. -/
def behindEmpty (state : σ) : List Bytes :=
  ((inbox.entries state).dropWhile Option.isSome).tail.reduceOption

/-- The payloads that arrived during a call. -/
def arrived (entry : Entry σ) : List Bytes :=
  ((inbox.entries entry.after).drop (inbox.entries entry.before).length).reduceOption

/-- The payloads that arrived during several calls, in order. -/
def arrivals (made : List (Entry σ)) : List Bytes :=
  made.flatMap inbox.arrived

/-- What arrives during calls one after the other, in order. -/
@[simp]
theorem arrivals_append (first second : List (Entry σ)) :
    inbox.arrivals (first ++ second) = inbox.arrivals first ++ inbox.arrivals second :=
  List.flatMap_append

/-- What arrives during the first call comes first. -/
@[simp]
theorem arrivals_cons (entry : Entry σ) (made : List (Entry σ)) :
    inbox.arrivals (entry :: made) = inbox.arrived entry ++ inbox.arrivals made :=
  List.flatMap_cons

/-- In a call that only puts entries in, what arrived is what waits in addition. -/
theorem waiting_of_grows {entry : Entry σ}
    (h : inbox.entries entry.before <+: inbox.entries entry.after) :
    inbox.waiting entry.before ++ inbox.arrived entry = inbox.waiting entry.after := by
  obtain ⟨new, hnew⟩ := h
  unfold waiting arrived
  rw [← hnew, List.drop_left, List.reduceOption_append]

/-- In a call that leaves the entries alone, nothing arrived. -/
theorem waiting_of_keeps {entry : Entry σ}
    (h : inbox.entries entry.after = inbox.entries entry.before) :
    inbox.waiting entry.before ++ inbox.arrived entry = inbox.waiting entry.after :=
  inbox.waiting_of_grows (h ▸ List.prefix_refl _)

/-- What waits before a call and what arrives during it is what the call takes and what waits
after it. -/
theorem waiting_arrived {entry : Entry σ} (h : Makes stack entry) :
    inbox.waiting entry.before ++ inbox.arrived entry =
      entry.call.taken?.toList ++ inbox.waiting entry.after := by
  cases h with
  | send payload around state =>
      exact inbox.waiting_of_grows (inbox.send_grows payload around state)
  | process around state => exact inbox.waiting_of_grows (inbox.process_grows around state)
  | transmitting around state =>
      exact inbox.waiting_of_keeps (inbox.transmitting_keeps around state)
  | sleepTime around state => exact inbox.waiting_of_keeps (inbox.sleepTime_keeps around state)
  | available around state => exact inbox.waiting_of_keeps (inbox.available_keeps around state)
  | recv around state =>
      have hvalue := inbox.recv_eq around state
      have hafter := inbox.recv_pops around state
      unfold waiting arrived
      simp only [Entry.of, Call.taken?, hvalue, hafter]
      cases inbox.entries state with
      | nil => rfl
      | cons next rest =>
          have hnothing : rest.drop (rest.length + 1) = [] :=
            List.drop_eq_nil_of_le (Nat.le_succ _)
          rw [List.length_cons, List.tail_cons, hnothing]
          cases next <;> simp

/-- The same of several calls. -/
theorem waiting_arrivals {start final : σ} {made : List (Entry σ)}
    (h : Calls stack start made final) :
    inbox.waiting start ++ inbox.arrivals made = taken made ++ inbox.waiting final := by
  induction h with
  | nil state => exact List.append_nil _
  | @cons entry made final hentry _ ih =>
      calc
        inbox.waiting entry.before ++ inbox.arrivals (entry :: made) =
            (inbox.waiting entry.before ++ inbox.arrived entry) ++ inbox.arrivals made := by
          rw [arrivals_cons, List.append_assoc]
        _ = entry.call.taken?.toList ++ (inbox.waiting entry.after ++ inbox.arrivals made) := by
          rw [inbox.waiting_arrived hentry, List.append_assoc]
        _ = taken (entry :: made) ++ inbox.waiting final := by
          rw [ih, taken_cons, List.append_assoc]

/-- No entry of a stack that keeps its word is empty. -/
theorem none_not_mem (hstack : stack.Forthcoming) (state : σ) : none ∉ inbox.entries state := by
  generalize hentries : inbox.entries state = entries
  induction entries generalizing state with
  | nil => exact List.not_mem_nil
  | cons next rest ih =>
      let around : Surroundings := { now := .zero, fault := .lowered }
      have hready : (stack.available around state).value = true := by
        rw [inbox.available_eq, hentries]
        rfl
      have hnext : next ≠ none := by
        have hsome := hstack around state hready
        rw [inbox.recv_eq, hentries] at hsome
        exact hsome
      have hrest : inbox.entries (stack.recv around state).state = rest := by
        rw [inbox.recv_pops, hentries]
        rfl
      intro hmem
      rcases List.mem_cons.mp hmem with heq | hlater
      · exact hnext heq.symm
      · exact ih _ hrest hlater

/-- A stack that keeps its word has no empty entries for payloads to wait behind. -/
theorem behindEmpty_eq_nil (hstack : stack.Forthcoming) (state : σ) :
    inbox.behindEmpty state = [] := by
  have hall : (inbox.entries state).dropWhile Option.isSome = [] := by
    rw [List.dropWhile_eq_nil_iff]
    intro entry hentry
    cases entry with
    | none => exact absurd hentry (inbox.none_not_mem hstack state)
    | some _ => rfl
  unfold behindEmpty
  rw [hall]
  rfl

/-- The first payload that waits is the next to be taken. -/
theorem head?_entries (hstack : stack.Forthcoming) {state : σ} {payload : Bytes}
    (h : (inbox.waiting state).head? = some payload) :
    (inbox.entries state).head?.join = some payload := by
  have hfull := inbox.none_not_mem hstack state
  unfold waiting at h
  cases hentries : inbox.entries state with
  | nil =>
      rw [hentries] at h
      cases h
  | cons next rest =>
      rw [hentries] at h hfull
      cases next with
      | none => exact absurd List.mem_cons_self hfull
      | some first => exact h

/-- Keeping the calls beside a stack does not touch its inbox. -/
def recorded : stack.recorded.Inbox where
  entries state := inbox.entries state.inner
  send_grows payload around state := inbox.send_grows payload around state.inner
  process_grows around state := inbox.process_grows around state.inner
  transmitting_keeps around state := inbox.transmitting_keeps around state.inner
  sleepTime_keeps around state := inbox.sleepTime_keeps around state.inner
  available_keeps around state := inbox.available_keeps around state.inner
  available_eq around state := inbox.available_eq around state.inner
  recv_pops around state := inbox.recv_pops around state.inner
  recv_eq around state := inbox.recv_eq around state.inner

end Inbox

end Stack

namespace Link

open Stack

variable (inbox : stack.Inbox)

/-! ## Taking from an inbox -/

/-- Asking leaves the entries alone, and the answer is whether there are any. -/
theorem entries_of_available {link looked : Link σ} {answer : Bool}
    (h : link.call stack.available = (answer, looked)) :
    inbox.entries looked.stack = inbox.entries link.stack ∧
      answer = !(inbox.entries link.stack).isEmpty := by
  obtain ⟨rfl, rfl⟩ := Prod.mk.inj h
  exact ⟨inbox.available_keeps _ _, inbox.available_eq _ _⟩

/-- The first entry is popped, and given if it holds a payload. -/
theorem entries_of_recv {link next : Link σ} {payload : Option Bytes}
    (h : link.call stack.recv = (payload, next)) :
    inbox.entries next.stack = (inbox.entries link.stack).tail ∧
      payload = (inbox.entries link.stack).head?.join := by
  obtain ⟨rfl, rfl⟩ := Prod.mk.inj h
  exact ⟨inbox.recv_pops _ _, inbox.recv_eq _ _⟩

/-- A poll takes the first entry, if there is one. -/
theorem entries_of_poll {link next : Link σ} {payload : Option Bytes}
    (h : await.poll stack link = (payload, next)) :
    inbox.entries next.stack = (inbox.entries link.stack).tail ∧
      payload = (inbox.entries link.stack).head?.join := by
  unfold await.poll at h
  rcases hlook : link.call stack.available with ⟨_ | _, looked⟩
  · simp only [hlook] at h
    obtain ⟨rfl, rfl⟩ := Prod.mk.inj h
    obtain ⟨hkept, hanswer⟩ := entries_of_available inbox hlook
    rw [Eq.comm, Bool.not_eq_false', List.isEmpty_iff] at hanswer
    rw [hkept, hanswer]
    exact ⟨rfl, rfl⟩
  · simp only [hlook] at h
    obtain ⟨hkept, _⟩ := entries_of_available inbox hlook
    rw [← hkept]
    exact entries_of_recv inbox h

/-- Dropping what waits stops behind the first empty entry. -/
theorem Discarded.entries_eq {link final : Link σ} (h : Discarded stack link final) :
    inbox.entries final.stack = ((inbox.entries link.stack).dropWhile Option.isSome).tail := by
  induction h with
  | nothing hlook =>
      obtain ⟨hkept, hanswer⟩ := entries_of_available inbox hlook
      rw [Eq.comm, Bool.not_eq_false', List.isEmpty_iff] at hanswer
      rw [hkept, hanswer]
      rfl
  | @empty link looked final hlook htake =>
      obtain ⟨hkept, hanswer⟩ := entries_of_available inbox hlook
      obtain ⟨hpopped, hnone⟩ := entries_of_recv inbox htake
      rw [hkept] at hpopped hnone
      rw [hpopped]
      -- the empty entry is gone too, but nothing that stands behind it
      cases hentries : inbox.entries link.stack with
      | nil =>
          rw [hentries] at hanswer
          cases hanswer
      | cons next rest =>
          rw [hentries] at hnone
          cases hnone
          rfl
  | @dropped link looked next final payload hlook htake _ ih =>
      obtain ⟨hkept, _⟩ := entries_of_available inbox hlook
      obtain ⟨hpopped, hsome⟩ := entries_of_recv inbox htake
      rw [hkept] at hpopped hsome
      rw [ih, hpopped]
      cases hentries : inbox.entries link.stack with
      | nil =>
          rw [hentries] at hsome
          cases hsome
      | cons next rest =>
          rw [hentries] at hsome
          cases hsome
          rfl

end Link

/-! ## The inbox of a rig -/

namespace Simulation.Rig

/-- Incidents only put entries in. -/
theorem inbox_happenAll (incidents : List Incident) (rig : Rig) :
    rig.inbox <+: (happenAll incidents rig).state.inbox := by
  induction incidents generalizing rig with
  | nil => exact List.prefix_refl _
  | cons incident rest ih =>
      have hfirst : rig.inbox <+: (happen incident rig).state.inbox := List.prefix_append _ _
      unfold happenAll
      dsimp only
      split
      · exact hfirst
      · exact hfirst.trans (ih _)

/-- Completing a payload only puts entries in. -/
theorem inbox_complete (rig : Rig) : rig.inbox <+: rig.complete.inbox := by
  unfold complete
  cases rig.info with
  | none => exact List.prefix_refl _
  | some info =>
      by_cases hrequest : isInfoRequest rig.current = true
      · simp only [hrequest, if_true]
        exact List.prefix_append _ _
      · simp only [hrequest]
        exact List.prefix_refl _

/-- A rig keeps what waits in a queue. -/
def queue : Rig.stack.Inbox where
  entries rig := rig.inbox
  send_grows payload around rig := by
    show rig.inbox <+: (rig.send payload).state.inbox
    unfold send
    have hall := fun incidents => inbox_happenAll incidents
      { rig with sends := rig.sends + 1, pending := rig.stepsFor payload, current := payload }
    dsimp only
    split
    · exact hall _
    · split
      · exact (hall _).trans (inbox_complete _)
      · exact hall _
  process_grows around rig := by
    show rig.inbox <+: rig.process.state.inbox
    unfold process
    have hall := fun incidents => inbox_happenAll incidents
      { rig with processed := rig.processed + 1 }
    dsimp only
    split
    · exact hall _
    · split
      · exact hall _
      · split
        · exact (hall _).trans (inbox_complete _)
        · exact hall _
  transmitting_keeps _ _ := rfl
  sleepTime_keeps _ _ := rfl
  available_keeps _ _ := rfl
  available_eq _ _ := rfl
  recv_pops _ rig := by
    show rig.recv.state.inbox = rig.inbox.tail
    unfold recv
    cases hinbox : rig.inbox with
    | nil => exact hinbox
    | cons entry rest => rfl
  recv_eq _ rig := by
    show rig.recv.value = rig.inbox.head?.join
    unfold recv
    cases rig.inbox <;> rfl

end Simulation.Rig

/-! ## The inbox of an echo -/

namespace Simulation

/-- The answers wait in a queue. -/
def echoQueue (answer : Bytes) : (echo answer).Inbox where
  entries waiting := waiting.map some
  send_grows _ _ waiting := by
    show waiting.map some <+: (waiting ++ [answer]).map some
    rw [List.map_append]
    exact List.prefix_append _ _
  process_grows _ _ := List.prefix_refl _
  transmitting_keeps _ _ := rfl
  sleepTime_keeps _ _ := rfl
  available_keeps _ _ := rfl
  available_eq _ waiting := by cases waiting <;> rfl
  recv_pops _ waiting := by cases waiting <;> rfl
  recv_eq _ waiting := by cases waiting <;> rfl

/-- The echo has a payload whenever it says so. -/
theorem echo_forthcoming (answer : Bytes) : (echo answer).Forthcoming := by
  intro _ waiting hready
  cases waiting with
  | nil => cases hready
  | cons first rest => exact Option.some_ne_none first

end Simulation

end Reflash
