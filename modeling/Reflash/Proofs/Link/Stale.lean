import Reflash.Proofs.Link.Faults
import Reflash.Proofs.Link.Inbox

/-!
# Payloads that outlast a send

A send drops what waits so that no late reply is taken for one to the new request. It stops at the
first empty entry, though, behind which a payload may still wait. Such payloads are the first that
are received afterwards; if there are none, everything received from then on has arrived since.
-/

namespace Reflash

open Stack

variable {σ τ : Type} {stack : Stack σ}

/-- The payload in the result of a receive. -/
def received : Except Error (Option Bytes) → List Bytes
  | .ok (some payload) => [payload]
  | _ => []

/-- Any number of calls on a transport, with the payloads that were received in them. -/
inductive Transport.Uses (transport : Transport τ) : τ → List Bytes → τ → Prop where
  | nil (state) : Uses transport state [] state
  | send {state payload reply payloads final} : transport.send state payload = some reply →
      Uses transport reply.state payloads final → Uses transport state payloads final
  | receive {state timeout reply payloads final} : transport.receive state timeout = some reply →
      Uses transport reply.state payloads final →
      Uses transport state (received reply.result ++ payloads) final

namespace Link

/-- A wait takes the payload that it gives, and no other. -/
theorem Awaited.leads {timeout start : Duration} {link final : Link (Recorded σ)}
    {result : Except Error (Option Bytes)}
    (h : Awaited stack.recorded timeout start link result final) :
    ∃ made, Leads stack link made final ∧ handed made = [] ∧ taken made = received result := by
  -- what is known at every poll
  have hseen : ∀ {last looked payload}, Waits stack.recorded timeout start link last →
      await.poll stack.recorded last = (payload, looked) →
      ∃ made, Leads stack link made looked ∧ handed made = [] ∧ taken made = payload.toList := by
    intro last looked payload hwaits hpoll
    obtain ⟨waited, hlast, hwaited⟩ := hwaits.passes
    obtain ⟨polled, hlooked, hhanded, _, htaken⟩ := passes_of_poll hpoll
    refine ⟨waited ++ polled, hlast.toLeads.trans hlooked.toLeads, ?_, ?_⟩
    · rw [handed_append, hwaited.handed_eq, hhanded, List.append_nil]
    · rw [taken_append, hwaited.taken_eq, htaken, List.nil_append]
  cases h with
  | came hwaits hpoll => exact hseen hwaits hpoll
  | fault hwaits hpoll _ =>
      obtain ⟨made, hleads, hhanded, htaken⟩ := hseen hwaits hpoll
      exact ⟨made, hleads.reported, hhanded, htaken⟩
  | late hwaits hpoll _ _ => exact hseen hwaits hpoll
  | broken hwaits hpoll _ _ hstep =>
      obtain ⟨made, hleads, hhanded, htaken⟩ := hseen hwaits hpoll
      obtain ⟨step, hcall, hfinal⟩ := passes_of_process hstep
      refine ⟨made ++ [step], hleads.trans hfinal.toLeads, ?_, ?_⟩
      · rw [handed_append, hhanded, handed_cons, hcall]
        rfl
      · rw [taken_append, htaken, taken_cons, hcall]
        rfl

/-- Whatever is received was taken from the stack. -/
theorem leads_of_uses {rounds : Nat} {link final : Link (Recorded σ)} {payloads : List Bytes}
    (h : (transport stack.recorded rounds).Uses link payloads final) :
    ∃ made, Leads stack link made final ∧ payloads.Sublist (taken made) := by
  induction h with
  | nil link => exact ⟨[], (Passes.refl link).toLeads, List.Sublist.refl _⟩
  | send hsend _ ih =>
      obtain ⟨_, _, dropped, request, later, htrail⟩ := (sent_of_send hsend).trail
      obtain ⟨made, hmade, hpayloads⟩ := ih
      refine ⟨_, htrail.leads.trans hmade, ?_⟩
      rw [taken_append]
      exact hpayloads.trans (List.sublist_append_right _ _)
  | receive hreceive _ ih =>
      obtain ⟨first, hfirst, _, htaken⟩ := (awaited_of_await hreceive).leads
      obtain ⟨made, hmade, hpayloads⟩ := ih
      refine ⟨first ++ made, hfirst.trans hmade, ?_⟩
      rw [taken_append, htaken]
      exact hpayloads.append_left _

/-- A receive that does not wait takes the first entry, if there is one. -/
theorem receive_zero (inbox : stack.Inbox) (rounds : Nat) (link : Link σ) :
    ∃ reply, receive stack (rounds + 1) link .zero = some reply ∧
      inbox.entries reply.state.stack = (inbox.entries link.stack).tail ∧
      received reply.result = (inbox.entries link.stack).head?.join.toList := by
  unfold receive await
  rcases hpoll : await.poll stack link with ⟨_ | payload, looked⟩
  · obtain ⟨hpopped, hnone⟩ := entries_of_poll inbox hpoll
    have htime : (looked.clock.since link.clock).reached .zero = true :=
      decide_eq_true (Nat.zero_le _)
    rw [← hnone]
    cases hfault : looked.fault.isRaised with
    | true =>
        simp only [checkFault_of_raised hfault]
        exact ⟨_, rfl, hpopped, rfl⟩
    | false =>
        simp only [checkFault_of_lowered hfault, htime, if_true]
        exact ⟨_, rfl, hpopped, rfl⟩
  · obtain ⟨hpopped, hsome⟩ := entries_of_poll inbox hpoll
    rw [← hsome]
    exact ⟨_, rfl, hpopped, rfl⟩

/-- The first payload that waits is received by receiving often enough without waiting, and the
others go on waiting. -/
theorem uses_of_waiting (inbox : stack.Inbox) {link : Link σ} {first : Bytes} {rest : List Bytes}
    (h : inbox.waiting link.stack = first :: rest) :
    ∃ final, (transport stack 1).Uses link [first] final ∧ inbox.waiting final.stack = rest := by
  unfold Inbox.waiting at h
  generalize hentries : inbox.entries link.stack = entries at h
  -- an empty entry in front costs a receive that gives nothing
  induction entries generalizing link with
  | nil => cases h
  | cons next others ih =>
      obtain ⟨reply, hreceive, hpopped, hreceived⟩ := receive_zero inbox 0 link
      rw [hentries, List.tail_cons] at hpopped
      rw [hentries, List.head?_cons] at hreceived
      cases next with
      | none =>
          rw [List.reduceOption_cons_of_none] at h
          obtain ⟨final, huses, hwaiting⟩ := ih hpopped h
          refine ⟨final, ?_, hwaiting⟩
          have hall := Transport.Uses.receive hreceive huses
          rw [hreceived] at hall
          exact hall
      | some payload =>
          rw [List.reduceOption_cons_of_some, List.cons.injEq] at h
          obtain ⟨rfl, hrest⟩ := h
          refine ⟨reply.state, ?_, ?_⟩
          · have hall : (transport stack 1).Uses link (received reply.result ++ []) reply.state :=
              .receive hreceive (.nil reply.state)
            rw [hreceived] at hall
            exact hall
          · unfold Inbox.waiting
            rw [hpopped, hrest]

section Trail

variable {payload : Bytes} {link ready final last : Link (Recorded σ)}
  {accepted result : Except Error Unit} {dropped later since : List (Entry σ)} {request : Entry σ}

/-- When the payload is handed over, what stood behind an empty entry still waits. -/
theorem Trail.waiting_ready (inbox : stack.Inbox)
    (h : Trail stack payload link ready final accepted result dropped request later) :
    inbox.waiting ready.stack.inner = inbox.behindEmpty link.stack.inner :=
  congrArg List.reduceOption (h.discarded.entries_eq inbox.recorded)

/-- Whatever is called after a send, what is taken in it and what waits in the end are the payloads
that stood behind an empty entry when the send began, and then those that have arrived since the
new payload was handed over. -/
theorem Trail.taken_waiting (inbox : stack.Inbox)
    (h : Trail stack payload link ready final accepted result dropped request later)
    (hsince : Leads stack final since last) :
    taken since ++ inbox.waiting last.stack.inner =
      inbox.behindEmpty link.stack.inner ++ inbox.arrivals (request :: later ++ since) := by
  have hall := inbox.waiting_arrivals (h.leads_final.trans hsince).calls
  rw [h.waiting_ready inbox, taken_append, h.taken_eq, List.nil_append] at hall
  exact hall.symm

end Trail

/-- A send drops what waits in front of the first empty entry. If no payload waits behind it, each
payload that is received afterwards, by any calls, has arrived since the new payload was handed
over. Otherwise the first of those behind it can still be received, before anything that has
arrived since. -/
theorem send_drops_up_to_empty (inbox : stack.Inbox) {rounds : Nat} {link : Link (Recorded σ)}
    {payload : Bytes} {reply : Reply (Link (Recorded σ)) Unit}
    (h : send stack.recorded rounds link payload = some reply) :
    ∃ dropped request later accepted,
      reply.state.stack.entries = link.stack.entries ++ (dropped ++ request :: later) ∧
      request.call = .send payload accepted ∧
      (inbox.behindEmpty link.stack.inner = [] →
        ∀ rounds payloads final,
          (transport stack.recorded rounds).Uses reply.state payloads final →
            ∃ since, final.stack.entries = reply.state.stack.entries ++ since ∧
              payloads.Sublist (inbox.arrivals (request :: later ++ since))) ∧
      ∀ first rest, inbox.behindEmpty link.stack.inner = first :: rest →
        ∃ final, (transport stack.recorded 1).Uses reply.state [first] final ∧
          inbox.waiting final.stack.inner = rest ++ inbox.arrivals (request :: later) := by
  obtain ⟨_, accepted, dropped, request, later, htrail⟩ := (sent_of_send h).trail
  refine ⟨dropped, request, later, accepted, htrail.leads.entries_eq, htrail.request_call, ?_, ?_⟩
  · intro hnothing rounds payloads final huses
    obtain ⟨since, hsince, hpayloads⟩ := leads_of_uses huses
    have hall := htrail.taken_waiting inbox hsince
    rw [hnothing, List.nil_append] at hall
    refine ⟨since, hsince.entries_eq, hpayloads.trans ?_⟩
    rw [← hall]
    exact List.sublist_append_left _ _
  · intro first rest hkept
    have hwaiting := htrail.taken_waiting inbox (Passes.refl reply.state).toLeads
    rw [hkept, List.append_nil] at hwaiting
    exact uses_of_waiting inbox.recorded hwaiting

open Simulation

/-- A rig in which a payload waits behind an empty entry. -/
def unanswered : Link Rig where
  stack := { Rig.quiet 1 with inbox := [some [1], none, some [2, 3]] }
  fault := .lowered
  config := .standard
  clock := .zero

/-- The payload behind the empty entry is received after the next send. -/
theorem send_drops_up_to_empty_two_waiting :
    ∃ reply final, send Rig.stack.recorded 2 (unanswered.watched []) [7] = some reply ∧
      (transport Rig.stack.recorded 1).Uses reply.state [[2, 3]] final := by
  obtain ⟨reply, hsend⟩ :
      ∃ reply, send Rig.stack.recorded 2 (unanswered.watched []) [7] = some reply :=
    ⟨_, rfl⟩
  obtain ⟨_, _, _, _, _, _, _, hkept⟩ := send_drops_up_to_empty Rig.queue hsend
  obtain ⟨final, huses, _⟩ := hkept [2, 3] [] rfl
  exact ⟨reply, final, hsend, huses⟩

/-- Not every payload that waits is dropped: one is received right after a send that succeeded,
although nothing has arrived. -/
theorem late_payload_received :
    ∃ sent reply, Rig.queue.waiting unanswered.stack = [[1], [2, 3]] ∧
      send Rig.stack.recorded 2 (unanswered.watched []) [7] = some sent ∧ sent.result = .ok () ∧
      receive Rig.stack.recorded 1 sent.state .zero = some reply ∧
      reply.result = .ok (some [2, 3]) ∧ Rig.queue.arrivals reply.state.stack.entries = [] :=
  ⟨_, _, rfl, rfl, rfl, rfl, rfl, rfl⟩

end Link

end Reflash
