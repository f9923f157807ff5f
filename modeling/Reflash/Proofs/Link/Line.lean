import Reflash.Proofs.Link.Exchange

/-!
# The line behind a stack

Between the moment at which a payload is handed to a stack and the moment at which it is out, the
line is busy. `Stack.Line` says of a stack that only `send` and `process` have to do with this:
nothing else makes the line busy or free, and a step makes no line busy that was free. A send that
succeeds leaves the line free, and a free line stays free until the next payload is handed over. A
send does not look at the line, though, before it hands its payload over.
-/

namespace Reflash

variable {σ : Type} {stack : Stack σ}

namespace Stack

/-- A view of the states of a stack as those of a line. -/
structure Line (stack : Stack σ) where
  /-- Whether a payload is still on its way out. -/
  busy : σ → Bool
  transmitting_eq : ∀ around state, (stack.transmitting around state).value = busy state
  transmitting_keeps : ∀ around state, busy (stack.transmitting around state).state = busy state
  available_keeps : ∀ around state, busy (stack.available around state).state = busy state
  recv_keeps : ∀ around state, busy (stack.recv around state).state = busy state
  sleepTime_keeps : ∀ around state, busy (stack.sleepTime around state).state = busy state
  process_frees : ∀ around state, busy state = false →
    busy (stack.process around state).state = false

namespace Line

variable (line : stack.Line)

/-- Keeping the calls beside a stack does not touch its line. -/
def recorded : stack.recorded.Line where
  busy state := line.busy state.inner
  transmitting_eq around state := line.transmitting_eq around state.inner
  transmitting_keeps around state := line.transmitting_keeps around state.inner
  available_keeps around state := line.available_keeps around state.inner
  recv_keeps around state := line.recv_keeps around state.inner
  sleepTime_keeps around state := line.sleepTime_keeps around state.inner
  process_frees around state := line.process_frees around state.inner

/-- A call that hands nothing over leaves a free line free. -/
theorem free_of_makes {entry : Entry σ} (h : Makes stack entry) (hhanded : entry.call.handed? = none)
    (hfree : line.busy entry.before = false) : line.busy entry.after = false := by
  cases h with
  | send => cases hhanded
  | transmitting around state => exact (line.transmitting_keeps around state).trans hfree
  | process around state => exact line.process_frees around state hfree
  | available around state => exact (line.available_keeps around state).trans hfree
  | recv around state => exact (line.recv_keeps around state).trans hfree
  | sleepTime around state => exact (line.sleepTime_keeps around state).trans hfree

/-- So do several calls. -/
theorem free_of_calls {start final : σ} {made : List (Entry σ)} (h : Calls stack start made final)
    (hhanded : handed made = []) (hfree : line.busy start = false) : line.busy final = false := by
  induction h with
  | nil => exact hfree
  | @cons entry made final hentry _ ih =>
      rw [handed_cons, List.append_eq_nil_iff, Option.toList_eq_nil_iff] at hhanded
      exact ih hhanded.2 (line.free_of_makes hentry hhanded.1 hfree)

/-- Each payload that was handed over while the line was busy is excused by an error in `results`,
at the place that says how many were handed over before. -/
def Excused (results : List (Except Error Unit)) (made : List (Entry σ)) : Prop :=
  ∀ earlier request later, made = earlier ++ request :: later → request.call.handed? ≠ none →
    line.busy request.before = true →
      ∃ error, results[(handed earlier).length]? = some (.error error)

variable {line} {results : List (Except Error Unit)} {first second made : List (Entry σ)}

/-- Where nothing is handed over, nothing has to be excused. -/
theorem Excused.of_handed_eq_nil (h : handed made = []) : line.Excused results made := by
  rintro earlier request later rfl hrequest
  rw [handed_append, List.append_eq_nil_iff, handed_cons, List.append_eq_nil_iff,
    Option.toList_eq_nil_iff] at h
  exact absurd h.2.1 hrequest

/-- If calls are excused and so are those after them, counted on from there, then all are. -/
theorem Excused.append (hfirst : line.Excused results first)
    (hsecond : line.Excused (results.drop (handed first).length) second) :
    line.Excused results (first ++ second) := by
  intro earlier request later hsplit hrequest hbusy
  rcases List.append_eq_append_iff.mp hsplit with ⟨between, rfl, hlater⟩ | ⟨between, rfl, hlater⟩
  · obtain ⟨error, herror⟩ := hsecond between request later hlater hrequest hbusy
    refine ⟨error, ?_⟩
    rw [handed_append, List.length_append, ← List.getElem?_drop, herror]
  · cases between with
    | nil =>
        obtain ⟨error, herror⟩ := hsecond [] request later hlater.symm hrequest hbusy
        rw [List.getElem?_drop, List.append_nil] at herror
        exact ⟨error, herror⟩
    | cons next others =>
        obtain ⟨rfl, _⟩ := List.cons.inj hlater
        exact hfirst earlier request others rfl hrequest hbusy

end Line

end Stack

namespace Link

open Stack

variable (line : stack.Line)

/-- Dropping what waits does not touch the line. -/
theorem Discarded.busy_eq {link final : Link σ} (h : Discarded stack link final) :
    line.busy final.stack = line.busy link.stack := by
  have havailable : ∀ {link looked : Link σ} {answer},
      link.call stack.available = (answer, looked) →
        line.busy looked.stack = line.busy link.stack := by
    intro link looked answer hlook
    obtain ⟨rfl, rfl⟩ := Prod.mk.inj hlook
    exact line.available_keeps _ _
  have hrecv : ∀ {link next : Link σ} {payload}, link.call stack.recv = (payload, next) →
      line.busy next.stack = line.busy link.stack := by
    intro link next payload htake
    obtain ⟨rfl, rfl⟩ := Prod.mk.inj htake
    exact line.recv_keeps _ _
  induction h with
  | nothing hlook => exact havailable hlook
  | empty hlook htake => rw [hrecv htake, havailable hlook]
  | dropped hlook htake _ ih => rw [ih, hrecv htake, havailable hlook]

/-- A send that succeeds ends with a look that finds the line free. -/
theorem Sent.free_of_ok {payload : Bytes} {link final : Link σ}
    (h : Sent stack payload link (.ok ()) final) : line.busy final.stack = false := by
  cases h with
  | queued _ _ htransmit =>
      cases htransmit with
      | out _ hlook _ =>
          obtain ⟨hanswer, rfl⟩ := Prod.mk.inj hlook
          refine (line.transmitting_keeps _ _).trans ?_
          rw [← line.transmitting_eq]
          exact hanswer

/-- A send hands its payload over as it finds the line. If that was busy, the error of whatever was
sent before excuses it; if the send succeeds, the line is free afterwards. -/
theorem Sent.excused {payload : Bytes} {link final : Link (Recorded σ)}
    {last result : Except Error Unit} (h : Sent stack.recorded payload link result final)
    (hlast : line.busy link.stack.inner = true → ∃ error, last = .error error)
    (later : List (Except Error Unit)) :
    ∃ made, Leads stack link made final ∧ handed made = [payload] ∧
      line.Excused (last :: later) made ∧
      (line.busy final.stack.inner = true → ∃ error, result = .error error) := by
  obtain ⟨ready, accepted, dropped, request, after, htrail⟩ := h.trail
  refine ⟨_, htrail.leads, htrail.handed_eq, ?_, ?_⟩
  · intro earlier other others hsplit hother hbusy
    -- the request of the trail is the only call of the send that hands anything over
    have hsame := eq_of_handed hsplit htrail.handed_dropped htrail.handed_later hother
    obtain ⟨rfl, _⟩ := List.cons.inj hsame
    have hearlier : dropped = earlier := by
      rw [hsame] at hsplit
      exact List.append_cancel_right hsplit
    have hready : line.busy ready.stack.inner = line.busy link.stack.inner :=
      htrail.discarded.busy_eq line.recorded
    rw [htrail.request_before, hready] at hbusy
    obtain ⟨error, rfl⟩ := hlast hbusy
    rw [← hearlier, htrail.handed_dropped]
    exact ⟨error, rfl⟩
  · intro hbusy
    cases result with
    | error error => exact ⟨error, rfl⟩
    | ok =>
        have hfree : line.busy final.stack.inner = false := h.free_of_ok line.recorded
        rw [hfree] at hbusy
        cases hbusy

/-- A wait hands nothing over and leaves a free line free. -/
theorem Awaited.free {timeout start : Duration} {link final : Link (Recorded σ)}
    {result : Except Error (Option Bytes)}
    (h : Awaited stack.recorded timeout start link result final) :
    ∃ made, Leads stack link made final ∧ handed made = [] ∧
      (line.busy final.stack.inner = true → line.busy link.stack.inner = true) := by
  obtain ⟨made, hmade, hhanded, _⟩ := h.leads
  refine ⟨made, hmade, hhanded, fun hbusy => ?_⟩
  refine Bool.of_not_eq_false fun hfree => ?_
  rw [line.free_of_calls hmade.calls hhanded hfree] at hbusy
  cases hbusy

end Link

/-! ## The line of a rig -/

namespace Simulation.Rig

/-- No incident makes a free line busy. -/
theorem pending_happenAll {rig : Rig} (hfree : rig.pending = 0) (incidents : List Incident) :
    (happenAll incidents rig).state.pending = 0 := by
  induction incidents generalizing rig with
  | nil => exact hfree
  | cons incident rest ih =>
      have hfirst : (happen incident rig).state.pending = 0 := by
        show (if incident.drop then 0 else rig.pending) = 0
        rw [hfree, ite_self]
      unfold happenAll
      dsimp only
      split
      · exact hfirst
      · exact ih hfirst

/-- No step makes a free line busy. -/
theorem pending_process {rig : Rig} (hfree : rig.pending = 0) : rig.process.state.pending = 0 := by
  unfold process
  dsimp only
  have hnone : ∀ incidents,
      (happenAll incidents { rig with processed := rig.processed + 1 }).state.pending = 0 :=
    pending_happenAll hfree
  generalize rig.incidents.filter _ = incidents
  specialize hnone incidents
  generalize happenAll incidents _ = outcome at hnone ⊢
  split
  · exact hnone
  · rw [hnone]
    exact hnone

/-- The line of a rig is busy while steps are pending. -/
def line : Rig.stack.Line where
  busy rig := rig.pending ≠ 0
  transmitting_eq _ _ := rfl
  transmitting_keeps _ _ := rfl
  available_keeps _ _ := rfl
  recv_keeps _ rig := by
    show decide (rig.recv.state.pending ≠ 0) = _
    unfold recv
    cases rig.inbox <;> rfl
  sleepTime_keeps _ _ := rfl
  process_frees _ rig hfree := by
    rw [decide_eq_false_iff_not, not_not] at hfree ⊢
    exact pending_process hfree

end Simulation.Rig

end Reflash
