import Reflash.Proofs.Link.Line
import Reflash.Proofs.Session.Rest

/-!
# One frame at a time

A session waits for the end of each send before it begins the next, so there should never be more
than one frame on its way. The traffic of a run is a dialogue, that is, nothing but calls on the
transport one after the other. Over a link it follows that a frame is handed over to a busy line only
right behind a send that ended in an error: such a send may leave its own frame half transmitted, and
the next one does not wait for it.
-/

namespace Reflash

open Stack Link

namespace Session

variable {τ : Type} {transport : Transport τ}

/-- The traffic of a run is the calls that all its operations make, if none of them goes round the
session. -/
theorem dialogue_of_run {operations : List (Operation τ)} {session : Session τ}
    {turns : List (Turn τ)} (h : run transport operations session = some turns)
    (hdirect : ∀ f, .bypass f ∉ operations) :
    Dialogue transport session.transport (turns.flatMap fun turn => traffic turn.episode.events)
      (after session turns).transport := by
  induction operations generalizing session turns with
  | nil =>
      cases h
      exact .nil _
  | cons operation rest ih =>
      obtain ⟨episode, others, hfirst, hothers, rfl⟩ := run_cons_eq_some h
      have hoperation : ∀ f, operation ≠ .bypass f := by
        rintro f rfl
        exact hdirect f List.mem_cons_self
      have hrest : ∀ f, .bypass f ∉ rest := fun f hf => hdirect f (List.mem_cons_of_mem _ hf)
      exact Dialogue.append (dialogue_of_perform hfirst hoperation) (ih hothers hrest)

/-- The frames sent in a run are those of its turns. -/
theorem attempts_flatMap_traffic (turns : List (Turn τ)) :
    attempts (turns.flatMap fun turn => traffic turn.episode.events) = sendsOf turns := by
  unfold sendsOf
  induction turns with
  | nil => rfl
  | cons turn rest ih =>
      rw [List.flatMap_cons, List.flatMap_cons, attempts_append, attempts_traffic, ih]
      rfl

/-! ## Dialogues over a link -/

variable {σ : Type} {stack : Stack σ} {rounds : Nat}

/-- In a dialogue over a link every frame is handed to the stack once, and whatever is handed over
to a busy line is excused by the error of the send before it, of which `last` is the first. -/
theorem Dialogue.excused (line : stack.Line) {link final : Link (Recorded σ)}
    {events : List Event} {last : Except Error Unit}
    (h : Dialogue (Link.transport stack.recorded rounds) link events final)
    (hlast : line.busy link.stack.inner = true → ∃ error, last = .error error) :
    ∃ made, Leads stack link made final ∧ handed made = (attempts events).map Prod.fst ∧
      line.Excused (last :: (attempts events).map Prod.snd) made := by
  induction h generalizing last with
  | nil link => exact ⟨[], (Passes.refl link).toLeads, rfl, Line.Excused.of_handed_eq_nil rfl⟩
  | progress _ ih => exact ih hlast
  | @send link frame reply events final hsend _ ih =>
      obtain ⟨first, hfirst, hframe, hexcused, hresult⟩ :=
        (sent_of_send hsend).excused line hlast (reply.result :: (attempts events).map Prod.snd)
      obtain ⟨others, hothers, hframes, hlater⟩ := ih hresult
      refine ⟨first ++ others, hfirst.trans hothers, ?_, hexcused.append ?_⟩
      · rw [handed_append, hframe, hframes]
        rfl
      · rw [hframe]
        exact hlater
  | @receive link timeout reply events final hreceive _ ih =>
      obtain ⟨first, hfirst, hnone, hfree⟩ := (awaited_of_await hreceive).free line
      obtain ⟨others, hothers, hframes, hlater⟩ := ih fun hbusy => hlast (hfree hbusy)
      have hexcused : line.Excused (last :: (attempts events).map Prod.snd) first :=
        .of_handed_eq_nil hnone
      refine ⟨first ++ others, hfirst.trans hothers, ?_, hexcused.append ?_⟩
      · rw [handed_append, hnone, hframes]
        rfl
      · rw [hnone]
        exact hlater

/-- In every run of queries, upgrades and resets over a link whose line is free at the start, each
send hands its frame to the stack once, in order. If a frame is handed over while the line is still
busy, then the send right before it, that of the frame handed over last, ended in an error. -/
theorem busy_only_after_error (line : stack.Line) {operations : List (Operation (Link (Recorded σ)))}
    {session : Session (Link (Recorded σ))} {turns : List (Turn (Link (Recorded σ)))}
    (hdirect : ∀ f, .bypass f ∉ operations)
    (hfree : line.busy session.transport.stack.inner = false)
    (hrun : run (Link.transport stack.recorded rounds) operations session = some turns) :
    ∃ made, (after session turns).transport.stack.entries =
        session.transport.stack.entries ++ made ∧
      handed made = (sendsOf turns).map Prod.fst ∧
      ∀ earlier request later, made = earlier ++ request :: later →
        request.call.handed? ≠ none → line.busy request.before = true →
          ∃ before frame error after, sendsOf turns = before ++ (frame, .error error) :: after ∧
            handed earlier = before.map Prod.fst ++ [frame] := by
  -- it is as if a send that succeeded had come before the run
  have hstart : line.busy session.transport.stack.inner = true →
      ∃ error, (Except.ok () : Except Error Unit) = .error error := by
    rw [hfree]
    intro h
    cases h
  obtain ⟨made, hmade, hhanded, hexcused⟩ := (dialogue_of_run hrun hdirect).excused line hstart
  rw [attempts_flatMap_traffic] at hhanded hexcused
  refine ⟨made, hmade.entries_eq, hhanded, ?_⟩
  intro earlier request later hsplit hrequest hbusy
  obtain ⟨error, herror⟩ := hexcused earlier request later hsplit hrequest hbusy
  have hinitial : handed earlier <+: (sendsOf turns).map Prod.fst := by
    rw [← hhanded, hsplit, handed_append]
    exact List.prefix_append _ _
  rw [List.prefix_iff_eq_take] at hinitial
  cases hlength : (handed earlier).length with
  | zero =>
      rw [hlength] at herror
      cases herror
  | succ number =>
      rw [hlength, List.getElem?_cons_succ, List.getElem?_map, Option.map_eq_some_iff] at herror
      obtain ⟨⟨frame, _⟩, hsend, rfl⟩ := herror
      obtain ⟨hnumber, hget⟩ := List.getElem?_eq_some_iff.mp hsend
      refine ⟨(sendsOf turns).take number, frame, error, (sendsOf turns).drop (number + 1), ?_, ?_⟩
      · rw [← hget, ← List.drop_eq_getElem_cons hnumber, List.take_append_drop]
      · rw [hinitial, hlength, List.take_add_one, ← List.map_take, List.getElem?_map, hsend]
        rfl

open Simulation

/-- A session over a link that gives a transmission ten milliseconds. A frame takes two steps of the
stack, and the first step of all takes twenty milliseconds. -/
def overdue : Session (Link (Recorded Rig)) :=
  new (Link.watched [] {
    stack := { Rig.quiet 2 with
      incidents := [{
        atProcess := some 1
        atSend := none
        raise := none
        deliver := none
        delay := .ofMilliseconds 20
        drop := false
        error := none }] }
    fault := .lowered
    config := { Link.Config.standard with sendTimeout := .ofMilliseconds 10 }
    clock := .zero })

/-- A query whose request does not go out in time, and a reset after it: the reset is handed over to
a busy line, since the send of the query was not successful. -/
theorem busy_only_after_error_overdue :
    Rig.line.busy overdue.transport.stack.inner = false ∧ ∃ turns made request error rest,
      run (Link.transport Rig.stack.recorded 5) [.query, .reset] overdue = some turns ∧
      handed made = (sendsOf turns).map Prod.fst ∧ request ∈ made ∧
      request.call = .send resetFrame (.ok ()) ∧ Rig.line.busy request.before = true ∧
      sendsOf turns = (infoFrame, .error error) :: rest := by
  obtain ⟨turns, request, hrun, hget, hearlier, hrequest, hbusy⟩ : ∃ turns request,
      run (Link.transport Rig.stack.recorded 5) [.query, .reset] overdue = some turns ∧
      (after overdue turns).transport.stack.entries[7]? = some request ∧
      handed ((after overdue turns).transport.stack.entries.take 7) = [infoFrame] ∧
      request.call = .send resetFrame (.ok ()) ∧ Rig.line.busy request.before = true :=
    ⟨_, _, rfl, rfl, rfl, rfl, rfl⟩
  have hdirect : ∀ f : Link (Recorded Rig) → Link (Recorded Rig),
      .bypass f ∉ [Operation.query, .reset] := by simp
  have hfree : Rig.line.busy overdue.transport.stack.inner = false := rfl
  obtain ⟨made, hmade, hhanded, hexcused⟩ := busy_only_after_error Rig.line hdirect hfree hrun
  have hstart : overdue.transport.stack.entries = [] := rfl
  rw [hmade, hstart, List.nil_append] at hget hearlier
  obtain ⟨hlength, hrequested⟩ := List.getElem?_eq_some_iff.mp hget
  have hsplit : made = made.take 7 ++ request :: made.drop 8 := by
    rw [← hrequested, ← List.drop_eq_getElem_cons hlength, List.take_append_drop]
  have hsome : request.call.handed? ≠ none := by
    rw [hrequest]
    exact Option.some_ne_none resetFrame
  obtain ⟨before, frame, error, rest, hsends, hlast⟩ := hexcused _ request _ hsplit hsome hbusy
  rw [hearlier, Eq.comm, List.append_eq_singleton_iff] at hlast
  simp only [List.map_eq_nil_iff, List.cons.injEq, and_true, List.cons_ne_nil, and_false,
    or_false] at hlast
  obtain ⟨rfl, rfl⟩ := hlast
  exact ⟨hfree, turns, made, request, error, rest, hrun, hhanded, List.mem_of_getElem? hget,
    hrequest, hbusy, hsends⟩

/-- A frame can be handed over while the one before it is still on its way: the reset is, with half
of the query transmitted and none of it completed. -/
theorem frame_handed_over_to_busy_line :
    ∃ turns request,
      run (Link.transport Rig.stack.recorded 5) [.query, .reset] overdue = some turns ∧
      request ∈ (after overdue turns).transport.stack.entries ∧
      request.call = .send resetFrame (.ok ()) ∧ Rig.line.busy request.before = true ∧
      request.before.current = infoFrame ∧ request.before.completed = [] :=
  ⟨_, _, rfl, List.mem_of_getElem? (i := 7) rfl, rfl, rfl, rfl, rfl⟩

end Session

end Reflash
