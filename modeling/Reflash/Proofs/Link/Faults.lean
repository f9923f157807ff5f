import Reflash.Proofs.Link.History
import Reflash.Proofs.Link.Watched
import Reflash.Simulation.Rig

/-!
# Faults during a send

A send lowers the flag before it makes its first call, and looks at the flag after every look at
the stack. So what it reports can be read off the calls that it made: `Settled` says how. It takes
one invariant, that the flag is always what the reasons raised in the calls so far have made of a
lowered one.
-/

namespace Reflash.Link

open Stack Fault

variable {σ : Type} {stack : Stack σ}

/-- What a send reports, read off the calls that it made on the stack. -/
inductive Settled (made : List (Entry σ)) : Except Error Unit → Prop where
  /-- A call failed. -/
  | failed {error} : failures made = [error] → Settled made (.error error)
  /-- The flag was raised, for this reason first. -/
  | faulted {first later} : failures made = [] → reasons made = first :: later →
      Settled made (.error (.transportFault first))
  /-- Nothing happened, but the payload was not out in time. -/
  | late {lapse} : failures made = [] → reasons made = [] → (looks made).getLast? = some true →
      Settled made (.error (.timeout lapse))
  /-- Nothing happened until the payload was out. -/
  | out : failures made = [] → reasons made = [] → (looks made).getLast? = some false →
      Settled made (.ok ())

/-- A send in which nothing went wrong until the payload was out succeeded. -/
theorem Settled.result_eq_ok {made : List (Entry σ)} {result : Except Error Unit}
    (h : Settled made result) (hfailures : failures made = []) (hreasons : reasons made = [])
    (hlook : (looks made).getLast? = some false) : result = .ok () := by
  cases h with
  | failed hfailed =>
      rw [hfailures] at hfailed
      cases hfailed
  | faulted _ hfaulted =>
      rw [hreasons] at hfaulted
      cases hfaulted
  | late _ _ hlate =>
      rw [hlook] at hlate
      cases hlate
  | out => rfl

/-- A transmission up to a look at the stack and with it. -/
theorem Pumps.passes_look {start : Duration} {link last looked : Link (Recorded σ)} {answer : Bool}
    (hpumps : Pumps stack.recorded start link last)
    (hlook : last.call stack.recorded.transmitting = (answer, looked)) :
    ∃ made, Passes stack link made looked ∧ Uneventful made ∧
      (looks made).getLast? = some answer := by
  obtain ⟨pumped, hlast, hpumped⟩ := hpumps.passes
  obtain ⟨look, hcall, hlooked⟩ := passes_of_transmitting hlook
  have hsingle : Uneventful [look] := .single hcall ⟨rfl, rfl, rfl⟩
  refine ⟨pumped ++ [look], hlast.trans hlooked, hpumped.append hsingle, ?_⟩
  have hanswer : looks [look] = [answer] := by
    rw [looks_cons, hcall]
    rfl
  rw [looks_append, hanswer, List.getLast?_concat]

/-- What is known at a look during a transmission, with the calls `before` it since the flag was
lowered and the calls `made` in it so far. -/
structure Seen (stack : Stack σ) (before : List (Entry σ)) (link : Link (Recorded σ))
    (answer : Bool) (looked : Link (Recorded σ)) (made : List (Entry σ)) : Prop where
  leads : Leads stack link made looked
  uneventful : Uneventful made
  failures_eq : failures (before ++ made) = []
  looks_eq : (looks (before ++ made)).getLast? = some answer
  isRaised_eq : looked.fault.isRaised = !(reasons (before ++ made)).isEmpty
  reason?_eq : looked.fault.reason? = (reasons (before ++ made)).head?

section Transmission

variable {start : Duration} {link : Link (Recorded σ)} {before : List (Entry σ)}

/-- What was known at the first look of a transmission is known at every later one. -/
theorem Pumps.seen {last looked : Link (Recorded σ)} {answer : Bool}
    (hflag : link.fault = Flag.lowered.raiseAll (reasons before)) (hbefore : failures before = [])
    (hpumps : Pumps stack.recorded start link last)
    (hlook : last.call stack.recorded.transmitting = (answer, looked)) :
    ∃ made, Seen stack before link answer looked made := by
  obtain ⟨made, hlooked, hmade, hanswer⟩ := hpumps.passes_look hlook
  have hfault : looked.fault = Flag.lowered.raiseAll (reasons (before ++ made)) := by
    rw [hlooked.fault_eq, hflag, reasons_append, Flag.raiseAll_append]
  refine ⟨made, ?_⟩
  exact {
    leads := hlooked.toLeads
    uneventful := hmade
    failures_eq := by rw [failures_append, hbefore, hmade.failures_eq, List.append_nil]
    looks_eq := by rw [looks_append, List.getLast?_append, hanswer, Option.some_or]
    isRaised_eq := by rw [hfault, Flag.isRaised_raiseAll_lowered]
    reason?_eq := by rw [hfault, Flag.reason?_raiseAll_lowered] }

/-- While the flag is down, no reason has come up. -/
theorem Seen.reasons_eq {looked : Link (Recorded σ)} {answer : Bool} {made : List (Entry σ)}
    (h : Seen stack before link answer looked made) (hfault : looked.fault.isRaised = false) :
    reasons (before ++ made) = [] := by
  rw [h.isRaised_eq, Bool.not_eq_false', List.isEmpty_iff] at hfault
  exact hfault

/-- Once the flag is up, it stands for the first reason. -/
theorem Seen.exists_reasons_eq {looked : Link (Recorded σ)} {answer : Bool}
    {made : List (Entry σ)} (h : Seen stack before link answer looked made)
    (hfault : looked.fault.isRaised = true) :
    ∃ first later, reasons (before ++ made) = first :: later ∧
      looked.faultError = .transportFault first := by
  have hreason := h.reason?_eq
  rw [h.isRaised_eq] at hfault
  cases hreasons : reasons (before ++ made) with
  | nil =>
      rw [hreasons] at hfault
      cases hfault
  | cons first later =>
      refine ⟨first, later, rfl, ?_⟩
      unfold faultError
      rw [hreason, hreasons]
      rfl

/-- The calls that a transmission makes hand nothing over and take nothing. Together with those
made since the flag was lowered, they tell what is reported. -/
theorem Transmitted.settled {size : Nat} {final : Link (Recorded σ)} {result : Except Error Unit}
    (hflag : link.fault = Flag.lowered.raiseAll (reasons before)) (hbefore : failures before = [])
    (h : Transmitted stack.recorded size start link result final) :
    ∃ made, Leads stack link made final ∧ handed made = [] ∧ taken made = [] ∧
      Settled (before ++ made) result := by
  cases h with
  | out hpumps hlook hfault =>
      obtain ⟨made, hseen⟩ := hpumps.seen hflag hbefore hlook
      exact ⟨made, hseen.leads, hseen.uneventful.handed_eq, hseen.uneventful.taken_eq,
        .out hseen.failures_eq (hseen.reasons_eq hfault) hseen.looks_eq⟩
  | fault hpumps hlook hfault =>
      obtain ⟨made, hseen⟩ := hpumps.seen hflag hbefore hlook
      obtain ⟨first, later, hreasons, herror⟩ := hseen.exists_reasons_eq hfault
      refine ⟨made, hseen.leads.reported, hseen.uneventful.handed_eq, hseen.uneventful.taken_eq, ?_⟩
      rw [herror]
      exact .faulted hseen.failures_eq hreasons
  | late hpumps hlook hfault _ =>
      obtain ⟨made, hseen⟩ := hpumps.seen hflag hbefore hlook
      exact ⟨made, hseen.leads, hseen.uneventful.handed_eq, hseen.uneventful.taken_eq,
        .late hseen.failures_eq (hseen.reasons_eq hfault) hseen.looks_eq⟩
  | broken hpumps hlook _ _ hstep =>
      obtain ⟨made, hseen⟩ := hpumps.seen hflag hbefore hlook
      obtain ⟨step, hcall, hfinal⟩ := passes_of_process hstep
      refine ⟨made ++ [step], hseen.leads.trans hfinal.toLeads, ?_, ?_, .failed ?_⟩
      · rw [handed_append, hseen.uneventful.handed_eq, handed_cons, hcall]
        rfl
      · rw [taken_append, hseen.uneventful.taken_eq, taken_cons, hcall]
        rfl
      · rw [← List.append_assoc, failures_append, hseen.failures_eq, failures_cons, hcall]
        rfl

end Transmission

/-- How a send shows in the history: payloads are `dropped` until the stack is `ready`, then comes
the `request` that hands the payload over, and after it nothing is handed over and nothing is
taken. -/
structure Trail (stack : Stack σ) (payload : Bytes) (link ready final : Link (Recorded σ))
    (accepted result : Except Error Unit) (dropped : List (Entry σ)) (request : Entry σ)
    (later : List (Entry σ)) : Prop where
  discarded : Discarded stack.recorded { link with fault := .lowered } ready
  leads_ready : Leads stack link dropped ready
  handed_dropped : handed dropped = []
  request_call : request.call = .send payload accepted
  request_before : request.before = ready.stack.inner
  leads_final : Leads stack ready (request :: later) final
  handed_later : handed later = []
  taken_later : taken later = []
  settled : Settled (dropped ++ request :: later) result

/-- However a send ends, it leaves such a trail. -/
theorem Sent.trail {payload : Bytes} {link final : Link (Recorded σ)} {result : Except Error Unit}
    (h : Sent stack.recorded payload link result final) :
    ∃ ready accepted dropped request later,
      Trail stack payload link ready final accepted result dropped request later := by
  cases h with
  | @refused ready _ error hdrop hqueue =>
      obtain ⟨dropped, hready, hhanded, hfailures⟩ := hdrop.passes
      obtain ⟨request, hcall, hbefore, _, hfinal⟩ := passes_of_call hqueue (.send payload)
      refine ⟨ready, .error error, dropped, request, [], ?_⟩
      exact {
        discarded := hdrop
        leads_ready := hready.toLeads.of_stack_eq rfl
        handed_dropped := hhanded
        request_call := hcall
        request_before := hbefore
        leads_final := hfinal.toLeads
        handed_later := rfl
        taken_later := rfl
        settled := by
          refine .failed ?_
          rw [failures_append, hfailures, failures_cons, hcall]
          rfl }
  | @queued ready queued _ _ hdrop hqueue htransmit =>
      obtain ⟨dropped, hready, hhanded, hfailures⟩ := hdrop.passes
      obtain ⟨request, hcall, hbefore, _, hqueued⟩ := passes_of_call hqueue (.send payload)
      -- the send began by lowering the flag, so all that is in it was raised by these calls
      have hflag : queued.fault = Flag.lowered.raiseAll (reasons (dropped ++ [request])) :=
        (hready.trans hqueued).fault_eq
      have hfailures : failures (dropped ++ [request]) = [] := by
        rw [failures_append, hfailures, failures_cons, hcall]
        rfl
      obtain ⟨later, hfinal, hlater, htaken, hsettled⟩ := htransmit.settled hflag hfailures
      refine ⟨ready, .ok (), dropped, request, later, ?_⟩
      exact {
        discarded := hdrop
        leads_ready := hready.toLeads.of_stack_eq rfl
        handed_dropped := hhanded
        request_call := hcall
        request_before := hbefore
        leads_final := hqueued.toLeads.trans hfinal
        handed_later := hlater
        taken_later := htaken
        settled := by
          rw [List.append_assoc] at hsettled
          exact hsettled }

section Trail

variable {payload : Bytes} {link ready final : Link (Recorded σ)}
  {accepted result : Except Error Unit} {dropped later : List (Entry σ)} {request : Entry σ}

/-- The calls of the trail are all that the send made. -/
theorem Trail.leads
    (h : Trail stack payload link ready final accepted result dropped request later) :
    Leads stack link (dropped ++ request :: later) final :=
  h.leads_ready.trans h.leads_final

/-- The payload is handed over once, and no other is. -/
theorem Trail.handed_eq
    (h : Trail stack payload link ready final accepted result dropped request later) :
    handed (dropped ++ request :: later) = [payload] := by
  rw [handed_append, h.handed_dropped, handed_cons, h.request_call, h.handed_later]
  rfl

/-- From the moment at which the payload is handed over, nothing is taken. -/
theorem Trail.taken_eq
    (h : Trail stack payload link ready final accepted result dropped request later) :
    taken (request :: later) = [] := by
  rw [taken_cons, h.request_call, h.taken_later]
  rfl

/-- A send that succeeded did not fail at the call that handed the payload over. -/
theorem Trail.accepted_eq
    (h : Trail stack payload link ready final accepted result dropped request later)
    (hok : result = .ok ()) : accepted = .ok () := by
  have hsettled := h.settled
  rw [hok] at hsettled
  cases hsettled with
  | out hfailures =>
      rw [failures_append, failures_cons, h.request_call] at hfailures
      cases accepted with
      | error error => simp [Call.failure?] at hfailures
      | ok => rfl

end Trail

/-- A send hands its payload to the stack, and no other. -/
theorem Sent.leads {payload : Bytes} {link final : Link (Recorded σ)} {result : Except Error Unit}
    (h : Sent stack.recorded payload link result final) :
    ∃ made, Leads stack link made final ∧ handed made = [payload] := by
  obtain ⟨_, _, dropped, request, later, htrail⟩ := h.trail
  exact ⟨dropped ++ request :: later, htrail.leads, htrail.handed_eq⟩

/-- What was raised is what was raised in some call. -/
theorem reasons_eq_nil_iff {made : List (Entry σ)} :
    reasons made = [] ↔ ∀ entry ∈ made, entry.raised = [] :=
  List.flatMap_eq_nil_iff

/-- No send hides a fault or reports an old one. If it succeeds, the payload was handed to the
stack once, no call failed, the last look said that it is out, and nothing raised the flag. If the
flag was raised and no call failed, the send reports the first reason since it began. If a call
failed, the send reports that. And what the flag was when the send began makes no difference: not
to the calls, not to the result and not to the flag at the end. -/
theorem send_reports_first_fault {rounds : Nat} {link : Link σ} {payload : Bytes}
    {reply : Reply (Link σ) Unit} (h : send stack rounds link payload = some reply) :
    ∃ made : List (Entry σ),
      (∀ flag, send stack rounds { link with fault := flag } payload = some reply ∧
        send stack.recorded rounds (watched [] { link with fault := flag }) payload = some {
          result := reply.result
          state := reply.state.watched made
          log := reply.log }) ∧
      (reply.result = .ok () → handed made = [payload] ∧ failures made = [] ∧
        (looks made).getLast? = some false ∧ ∀ entry ∈ made, entry.raised = []) ∧
      (failures made = [] → ∀ reason,
        reply.result = .error (.transportFault reason) ↔ (reasons made).head? = some reason) ∧
      ∀ error ∈ failures made, reply.result = .error error := by
  obtain ⟨made, hmade⟩ := exists_send_watched [] h
  obtain ⟨_, _, dropped, request, later, htrail⟩ := (sent_of_send hmade).trail
  have hcalls : made = dropped ++ request :: later := by
    have hentries := htrail.leads.entries_eq
    rw [entries_watched] at hentries
    exact hentries
  have hhanded : handed made = [payload] := by
    rw [hcalls]
    exact htrail.handed_eq
  have hsettled := htrail.settled
  rw [← hcalls] at hsettled
  -- a send begins by lowering the flag, so `h` and `hmade` hold with any other flag as they are
  refine ⟨made, fun flag => ⟨h, hmade⟩, ?_, ?_, ?_⟩
  · intro hok
    rw [hok] at hsettled
    cases hsettled with
    | out hfailures hreasons hlast =>
        exact ⟨hhanded, hfailures, hlast, reasons_eq_nil_iff.mp hreasons⟩
  · intro hnofailure reason
    generalize reply.result = result at hsettled
    cases hsettled with
    | failed hfailures =>
        rw [hfailures] at hnofailure
        cases hnofailure
    | faulted _ hreasons =>
        rw [hreasons]
        simp
    | late _ hreasons | out _ hreasons =>
        rw [hreasons]
        simp
  · intro error herror
    generalize reply.result = result at hsettled
    cases hsettled with
    | failed hfailures =>
        rw [hfailures, List.mem_singleton] at herror
        rw [herror]
    | faulted hfailures | late hfailures | out hfailures =>
        rw [hfailures] at herror
        cases herror

open Simulation in
/-- A send that succeeds although the flag was still raised when it began. -/
theorem send_reports_first_fault_stale :
    let link : Link Rig := {
      stack := .quiet 1
      fault := .raised (some "bus off")
      config := .standard
      clock := .zero }
    ∃ reply made, send Rig.stack 2 link [1, 2] = some reply ∧ reply.result = .ok () ∧
      handed made = [[1, 2]] ∧ (looks made).getLast? = some false ∧
      ∀ flag, send Rig.stack.recorded 2 (watched [] { link with fault := flag }) [1, 2] = some {
        result := .ok ()
        state := reply.state.watched made
        log := reply.log } := by
  intro link
  obtain ⟨reply, hsend, hok⟩ : ∃ reply, send Rig.stack 2 link [1, 2] = some reply ∧
      reply.result = .ok () :=
    ⟨_, rfl, rfl⟩
  obtain ⟨made, hflag, hsuccess, _, _⟩ := send_reports_first_fault hsend
  obtain ⟨hhanded, _, hlast, _⟩ := hsuccess hok
  refine ⟨reply, made, hsend, hok, hhanded, hlast, fun flag => ?_⟩
  rw [← hok]
  exact (hflag flag).2

end Reflash.Link
