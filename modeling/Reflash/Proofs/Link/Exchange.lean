import Reflash.Proofs.Link.Stale

/-!
# Requests and their answers

What is received after a send should be the answer to it. `Fresh` says of a payload that it is the
first that arrived since a frame was handed to the stack. Over a stack whose inbox holds no empty
entries, whatever is received right after a send is fresh, and whatever is `Answered` in time is
received.
-/

namespace Reflash

open Stack Link

variable {σ : Type} {stack : Stack σ}

/-- The payload is the first that arrived since the frame was handed to the stack, which was once
on the way from one link to the other. Nothing was waiting then. -/
def Fresh (inbox : stack.Inbox) (frame : Bytes) (start final : Link (Recorded σ))
    (payload : Bytes) : Prop :=
  ∃ earlier request later,
    final.stack.entries = start.stack.entries ++ (earlier ++ request :: later) ∧
    request.call = .send frame (.ok ()) ∧ frame ∉ handed earlier ∧ frame ∉ handed later ∧
    inbox.waiting request.before = [] ∧ (inbox.arrivals (request :: later)).head? = some payload

section Fresh

variable {inbox : stack.Inbox} {frame payload : Bytes} {start mid final : Link (Recorded σ)}
  {made : List (Entry σ)}

/-- Calls in front that do not hand the frame over make no difference. -/
theorem Fresh.before (h : Fresh inbox frame mid final payload) (hleads : Leads stack start made mid)
    (hmade : frame ∉ handed made) : Fresh inbox frame start final payload := by
  obtain ⟨earlier, request, later, hentries, hrequest, hearlier, hlater, hnothing, hfirst⟩ := h
  refine ⟨made ++ earlier, request, later, ?_, hrequest, ?_, hlater, hnothing, hfirst⟩
  · rw [hentries, hleads.entries_eq, List.append_assoc, List.append_assoc]
  · rw [handed_append, List.mem_append, not_or]
    exact ⟨hmade, hearlier⟩

/-- Neither do calls behind. -/
theorem Fresh.after (h : Fresh inbox frame start mid payload) (hleads : Leads stack mid made final)
    (hmade : frame ∉ handed made) : Fresh inbox frame start final payload := by
  obtain ⟨earlier, request, later, hentries, hrequest, hearlier, hlater, hnothing, hfirst⟩ := h
  refine ⟨earlier, request, later ++ made, ?_, hrequest, hearlier, ?_, hnothing, ?_⟩
  · rw [hleads.entries_eq, hentries, List.append_assoc, List.append_assoc, List.cons_append]
  · rw [handed_append, List.mem_append, not_or]
    exact ⟨hlater, hmade⟩
  · rw [← List.cons_append, inbox.arrivals_append, List.head?_append, hfirst]
    rfl

end Fresh

namespace Link

/-- What is received right after a send is fresh. -/
theorem fresh_of_receive (inbox : stack.Inbox) (hstack : stack.Forthcoming) {rounds : Nat}
    {link : Link (Recorded σ)} {frame payload : Bytes} {timeout : Duration}
    {reply : Reply (Link (Recorded σ)) Unit} {response : Reply (Link (Recorded σ)) (Option Bytes)}
    (hsend : send stack.recorded rounds link frame = some reply) (hok : reply.result = .ok ())
    (hreceive : receive stack.recorded rounds reply.state timeout = some response)
    (hpayload : response.result = .ok (some payload)) :
    Fresh inbox frame link response.state payload := by
  obtain ⟨ready, accepted, dropped, request, later, htrail⟩ := (sent_of_send hsend).trail
  obtain ⟨waited, hwaited, hhanded, hreceived⟩ := (awaited_of_await hreceive).leads
  have haccepted : accepted = .ok () := htrail.accepted_eq hok
  have hready : inbox.waiting ready.stack.inner = [] :=
    (htrail.waiting_ready inbox).trans (inbox.behindEmpty_eq_nil hstack _)
  -- nothing was kept, so the payload taken is the first of those that arrived
  have harrivals := htrail.taken_waiting inbox hwaited
  rw [hreceived, hpayload, inbox.behindEmpty_eq_nil hstack, List.nil_append] at harrivals
  refine ⟨dropped, request, later ++ waited, ?_, ?_, ?_, ?_, ?_, ?_⟩
  · have hentries := (htrail.leads.trans hwaited).entries_eq
    rw [List.append_assoc] at hentries
    exact hentries
  · rw [htrail.request_call, haccepted]
  · rw [htrail.handed_dropped]
    exact List.not_mem_nil
  · rw [handed_append, htrail.handed_later, hhanded]
    exact List.not_mem_nil
  · rw [htrail.request_before, hready]
  · rw [← List.cons_append, ← harrivals]
    rfl

/-- The frame goes out in time, without an error and without a fault, and the payload is the first
that arrives after it was handed over and there at a poll that the wait for it comes to. -/
inductive Answered (inbox : stack.Inbox) (timeout : Duration) (link : Link (Recorded σ))
    (frame payload : Bytes) : Prop where
  | intro {rounds reply made polled earlier request later} :
      send stack.recorded rounds link frame = some reply →
      reply.state.stack.entries = link.stack.entries ++ made →
      failures made = [] → (∀ entry ∈ made, entry.raised = []) →
      (looks made).getLast? = some false →
      Waits stack.recorded timeout reply.state.clock reply.state polled →
      polled.stack.entries = link.stack.entries ++ (earlier ++ request :: later) →
      request.call = .send frame (.ok ()) →
      (inbox.arrivals (request :: later)).head? = some payload →
      Answered inbox timeout link frame payload

/-- Where only one call hands something over, it is told by that. -/
theorem eq_of_handed {dropped later earlier others : List (Entry σ)} {request other : Entry σ}
    (h : dropped ++ request :: later = earlier ++ other :: others) (hdropped : handed dropped = [])
    (hlater : handed later = []) (hother : other.call.handed? ≠ none) :
    request :: later = other :: others := by
  have hcontains : ∀ first second : List (Entry σ), handed (first ++ other :: second) ≠ [] := by
    intro first second hnone
    rw [handed_append, handed_cons] at hnone
    cases hcall : other.call.handed? with
    | none => exact hother hcall
    | some payload => simp [hcall] at hnone
  rcases List.append_eq_append_iff.mp h with ⟨between, _, hlast⟩ | ⟨between, hfirst, hlast⟩
  · cases between with
    | nil => exact hlast
    | cons next rest =>
        rw [(List.cons.inj hlast).2] at hlater
        exact absurd hlater (hcontains rest others)
  · cases between with
    | nil => exact hlast.symm
    | cons next rest =>
        rw [hfirst, ← (List.cons.inj hlast).1] at hdropped
        exact absurd hdropped (hcontains earlier rest)

/-- A payload that shows is received, as soon as the rounds suffice. -/
theorem Answered.eventually_received {inbox : stack.Inbox} (hstack : stack.Forthcoming)
    {timeout : Duration} {link : Link (Recorded σ)} {frame payload : Bytes}
    (h : Answered inbox timeout link frame payload) :
    ∃ needed, ∀ rounds ≥ needed, ∃ reply response,
      send stack.recorded rounds link frame = some reply ∧ reply.result = .ok () ∧
      receive stack.recorded rounds reply.state timeout = some response ∧
      response.result = .ok (some payload) := by
  cases h with
  | @intro rounds reply made polled earlier other others hsend hmade hfailures hreasons hlook hwaits
      hpolled hother hfirst =>
      obtain ⟨_, _, dropped, request, later, htrail⟩ := (sent_of_send hsend).trail
      obtain ⟨waited, hwaited, hquiet⟩ := hwaits.passes
      have hok : reply.result = .ok () := by
        have hsame := List.append_cancel_left (hmade.symm.trans htrail.leads.entries_eq)
        have hsettled := htrail.settled
        rw [← hsame] at hsettled
        exact hsettled.result_eq_ok hfailures (reasons_eq_nil_iff.mpr hreasons) hlook
      have hcalls : request :: (later ++ waited) = other :: others := by
        have hsame := List.append_cancel_left
          ((htrail.leads.trans hwaited.toLeads).entries_eq.symm.trans hpolled)
        rw [List.append_assoc, List.cons_append] at hsame
        refine eq_of_handed hsame htrail.handed_dropped ?_ ?_
        · rw [handed_append, htrail.handed_later, hquiet.handed_eq, List.append_nil]
        · rw [hother]
          exact Option.some_ne_none frame
      -- what waits at the poll is what has arrived since the frame was handed over
      have hwaiting := htrail.taken_waiting inbox hwaited.toLeads
      rw [hquiet.taken_eq, inbox.behindEmpty_eq_nil hstack, List.nil_append, List.nil_append,
        List.cons_append] at hwaiting
      rw [hcalls] at hwaiting
      rcases hpoll : await.poll stack.recorded polled with ⟨answer, next⟩
      have hanswer : answer = some payload := by
        rw [(entries_of_poll inbox.recorded hpoll).2]
        exact inbox.head?_entries hstack (hwaiting ▸ hfirst)
      rw [hanswer] at hpoll
      obtain ⟨first, hsends⟩ := (sent_of_send hsend).eventually
      obtain ⟨second, hreceives⟩ := hwaits.eventually_came hpoll
      refine ⟨max first second, fun rounds hrounds => ?_⟩
      obtain ⟨log, hsent⟩ := hsends rounds (Nat.le_trans (Nat.le_max_left _ _) hrounds)
      obtain ⟨records, hreceived⟩ :=
        hreceives rounds (Nat.le_trans (Nat.le_max_right _ _) hrounds)
      exact ⟨_, _, hsent, hok, hreceived, rfl⟩

end Link

end Reflash
