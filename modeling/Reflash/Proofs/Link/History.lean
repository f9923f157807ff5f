import Mathlib.Data.List.Basic
import Reflash.Proofs.Link.Outcomes

/-!
# The history of a link

A recorded stack keeps the calls that a link makes on it. This module says of every operation
which calls these are: `Leads` that they lead from one link to another, `Passes` that nothing else
lies in between, so that the flag is raised for the reasons that came up in them and for no others.
`handed`, `taken`, `looks`, `failures` and `reasons` are what can be read off the calls.
-/

namespace Reflash

namespace Stack

variable {σ α : Type} {stack : Stack σ}

/-! ## Reading calls -/

/-- The payload that a call hands to the stack. -/
def Call.handed? : Call → Option Bytes
  | .send payload _ => some payload
  | _ => none

/-- The payload that a call takes from the stack. -/
def Call.taken? : Call → Option Bytes
  | .recv payload => payload
  | _ => none

/-- Whether the stack was still transmitting, if the call asks for that. -/
def Call.look? : Call → Option Bool
  | .transmitting answer => some answer
  | _ => none

/-- The error that a call came back with. -/
def Call.failure? : Call → Option Error
  | .send _ (.error error) => some error
  | .process (.error error) => some error
  | _ => none

/-- The payloads handed to the stack, in order. -/
def handed (made : List (Entry σ)) : List Bytes :=
  made.filterMap (·.call.handed?)

/-- The payloads taken from the stack, in order. -/
def taken (made : List (Entry σ)) : List Bytes :=
  made.filterMap (·.call.taken?)

/-- The answers to whether the stack was still transmitting, in order. -/
def looks (made : List (Entry σ)) : List Bool :=
  made.filterMap (·.call.look?)

/-- The errors that calls came back with, in order. -/
def failures (made : List (Entry σ)) : List Error :=
  made.filterMap (·.call.failure?)

/-- The reasons for which the flag was raised, in order. -/
def reasons (made : List (Entry σ)) : List String :=
  made.flatMap Entry.raised

/-- What calls one after the other hand over, in order. -/
@[simp]
theorem handed_append (first second : List (Entry σ)) :
    handed (first ++ second) = handed first ++ handed second :=
  List.filterMap_append

/-- What calls one after the other take, in order. -/
@[simp]
theorem taken_append (first second : List (Entry σ)) :
    taken (first ++ second) = taken first ++ taken second :=
  List.filterMap_append

/-- The answers of looks one after the other, in order. -/
@[simp]
theorem looks_append (first second : List (Entry σ)) :
    looks (first ++ second) = looks first ++ looks second :=
  List.filterMap_append

/-- The errors of calls one after the other, in order. -/
@[simp]
theorem failures_append (first second : List (Entry σ)) :
    failures (first ++ second) = failures first ++ failures second :=
  List.filterMap_append

/-- The reasons of calls one after the other, in order. -/
@[simp]
theorem reasons_append (first second : List (Entry σ)) :
    reasons (first ++ second) = reasons first ++ reasons second :=
  List.flatMap_append

/-- The first call hands over a payload or none. -/
@[simp]
theorem handed_cons (entry : Entry σ) (made : List (Entry σ)) :
    handed (entry :: made) = entry.call.handed?.toList ++ handed made := by
  simp only [handed, List.filterMap_eq_flatMap_toList, List.flatMap_cons]

/-- The first call takes a payload or none. -/
@[simp]
theorem taken_cons (entry : Entry σ) (made : List (Entry σ)) :
    taken (entry :: made) = entry.call.taken?.toList ++ taken made := by
  simp only [taken, List.filterMap_eq_flatMap_toList, List.flatMap_cons]

/-- The first call looks or does not. -/
@[simp]
theorem looks_cons (entry : Entry σ) (made : List (Entry σ)) :
    looks (entry :: made) = entry.call.look?.toList ++ looks made := by
  simp only [looks, List.filterMap_eq_flatMap_toList, List.flatMap_cons]

/-- The first call comes back with an error or without one. -/
@[simp]
theorem failures_cons (entry : Entry σ) (made : List (Entry σ)) :
    failures (entry :: made) = entry.call.failure?.toList ++ failures made := by
  simp only [failures, List.filterMap_eq_flatMap_toList, List.flatMap_cons]

/-- Calls in which no payload is handed over, none is taken and nothing goes wrong. -/
structure Uneventful (made : List (Entry σ)) : Prop where
  handed_eq : handed made = []
  taken_eq : taken made = []
  failures_eq : failures made = []

/-- Where no call is made, nothing happens. -/
theorem Uneventful.nil : Uneventful ([] : List (Entry σ)) :=
  ⟨rfl, rfl, rfl⟩

/-- Where nothing happens and then nothing happens, nothing happens. -/
theorem Uneventful.append {first second : List (Entry σ)} (hfirst : Uneventful first)
    (hsecond : Uneventful second) : Uneventful (first ++ second) where
  handed_eq := by rw [handed_append, hfirst.handed_eq, hsecond.handed_eq, List.nil_append]
  taken_eq := by rw [taken_append, hfirst.taken_eq, hsecond.taken_eq, List.nil_append]
  failures_eq := by rw [failures_append, hfirst.failures_eq, hsecond.failures_eq, List.nil_append]

/-- One call that does nothing of this kind. -/
theorem Uneventful.single {entry : Entry σ} {call : Call} (hcall : entry.call = call)
    (hnone : call.handed? = none ∧ call.taken? = none ∧ call.failure? = none) :
    Uneventful [entry] where
  handed_eq := by rw [handed_cons, hcall, hnone.1]; rfl
  taken_eq := by rw [taken_cons, hcall, hnone.2.1]; rfl
  failures_eq := by rw [failures_cons, hcall, hnone.2.2]; rfl

/-! ## Calls that follow each other -/

/-- The entry that a call leaves. -/
def Entry.of (call : α → Call) (act : Surroundings → σ → Outcome σ α) (around : Surroundings)
    (state : σ) : Entry σ where
  call := call (act around state).value
  before := state
  after := (act around state).state
  raised := (act around state).raised

/-- The entries that the operations of a link can leave. -/
inductive Makes (stack : Stack σ) : Entry σ → Prop where
  | send (payload around state) :
      Makes stack (.of (.send payload) (stack.send payload) around state)
  | transmitting (around state) : Makes stack (.of .transmitting stack.transmitting around state)
  | process (around state) : Makes stack (.of .process stack.process around state)
  | available (around state) : Makes stack (.of .available stack.available around state)
  | recv (around state) : Makes stack (.of .recv stack.recv around state)
  | sleepTime (around state) : Makes stack (.of .sleepTime stack.sleepTime around state)

/-- The calls `made`, one after the other, lead from one state of the stack to another. -/
inductive Calls (stack : Stack σ) : σ → List (Entry σ) → σ → Prop where
  | nil (state) : Calls stack state [] state
  | cons {entry made final} : Makes stack entry → Calls stack entry.after made final →
      Calls stack entry.before (entry :: made) final

/-- Calls go on from where the calls before them ended. -/
theorem Calls.append {state mid final : σ} {first second : List (Entry σ)}
    (hfirst : Calls stack state first mid) (hsecond : Calls stack mid second final) :
    Calls stack state (first ++ second) final := by
  induction hfirst with
  | nil => exact hsecond
  | cons hentry _ ih => exact .cons hentry (ih hsecond)

end Stack

namespace Link

open Stack

variable {σ α : Type} {stack : Stack σ}

/-- The calls `made` lead from one link to another, where they are kept. -/
structure Leads (stack : Stack σ) (link : Link (Recorded σ)) (made : List (Entry σ))
    (final : Link (Recorded σ)) : Prop where
  entries_eq : final.stack.entries = link.stack.entries ++ made
  calls : Calls stack link.stack.inner made final.stack.inner

/-- Nothing but the calls `made` lies between one link and another. -/
structure Passes (stack : Stack σ) (link : Link (Recorded σ)) (made : List (Entry σ))
    (final : Link (Recorded σ)) : Prop extends Leads stack link made final where
  fault_eq : final.fault = link.fault.raiseAll (reasons made)

section Composition

variable {link mid final : Link (Recorded σ)} {first second made : List (Entry σ)}

/-- What is led to can lead on, and all calls are kept in order. -/
theorem Leads.trans (hfirst : Leads stack link first mid) (hsecond : Leads stack mid second final) :
    Leads stack link (first ++ second) final where
  entries_eq := by rw [hsecond.entries_eq, hfirst.entries_eq, List.append_assoc]
  calls := hfirst.calls.append hsecond.calls

/-- Between a link and itself there need not be any call. -/
theorem Passes.refl (link : Link (Recorded σ)) : Passes stack link [] link where
  entries_eq := (List.append_nil _).symm
  calls := .nil _
  fault_eq := rfl

/-- Calls can be passed in two goes, and the flag is raised for the reasons of both. -/
theorem Passes.trans (hfirst : Passes stack link first mid)
    (hsecond : Passes stack mid second final) : Passes stack link (first ++ second) final where
  toLeads := hfirst.toLeads.trans hsecond.toLeads
  fault_eq := by
    rw [hsecond.fault_eq, hfirst.fault_eq, reasons_append, Fault.Flag.raiseAll_append]

/-- Taking the reason of a fault away is no call. -/
theorem Leads.reported (h : Leads stack link made final) : Leads stack link made final.reported :=
  ⟨h.entries_eq, h.calls⟩

/-- What the flag and the clock say when an operation begins is no part of the history. -/
theorem Leads.of_stack_eq {other : Link (Recorded σ)} (h : Leads stack link made final)
    (hstack : other.stack = link.stack) : Leads stack other made final := by
  refine ⟨?_, ?_⟩
  · rw [hstack]
    exact h.entries_eq
  · rw [hstack]
    exact h.calls

end Composition

/-! ## Single calls -/

/-- One call on the stack. -/
theorem passes_of_call {call : α → Call} {act : Surroundings → σ → Outcome σ α}
    {link next : Link (Recorded σ)} {value : α} (h : link.call (note call act) = (value, next))
    (hmakes : ∀ around state, Makes stack (.of call act around state)) :
    ∃ entry, entry.call = call value ∧ entry.before = link.stack.inner ∧
      entry.after = next.stack.inner ∧ Passes stack link [entry] next := by
  unfold Link.call at h
  obtain ⟨rfl, rfl⟩ := Prod.mk.inj h
  let around : Surroundings := { now := link.clock, fault := link.fault }
  refine ⟨.of call act around link.stack.inner, rfl, rfl, rfl, ?_⟩
  exact {
    entries_eq := List.reverse_cons
    calls := .cons (hmakes _ _) (.nil _)
    fault_eq := by
      show _ = link.fault.raiseAll (_ ++ [])
      rw [List.append_nil]
      rfl }

/-- Asking whether a payload is still on its way is one call. -/
theorem passes_of_transmitting {link next : Link (Recorded σ)} {answer : Bool}
    (h : link.call stack.recorded.transmitting = (answer, next)) :
    ∃ entry, entry.call = .transmitting answer ∧ Passes stack link [entry] next := by
  obtain ⟨entry, hcall, _, _, hpasses⟩ := passes_of_call h .transmitting
  exact ⟨entry, hcall, hpasses⟩

/-- A step is one call. -/
theorem passes_of_process {link next : Link (Recorded σ)} {result : Except Error Unit}
    (h : link.call stack.recorded.process = (result, next)) :
    ∃ entry, entry.call = .process result ∧ Passes stack link [entry] next := by
  obtain ⟨entry, hcall, _, _, hpasses⟩ := passes_of_call h .process
  exact ⟨entry, hcall, hpasses⟩

/-- Asking whether a payload has come in is one call. -/
theorem passes_of_available {link next : Link (Recorded σ)} {answer : Bool}
    (h : link.call stack.recorded.available = (answer, next)) :
    ∃ entry, entry.call = .available answer ∧ Passes stack link [entry] next := by
  obtain ⟨entry, hcall, _, _, hpasses⟩ := passes_of_call h .available
  exact ⟨entry, hcall, hpasses⟩

/-- Taking a payload is one call. -/
theorem passes_of_recv {link next : Link (Recorded σ)} {payload : Option Bytes}
    (h : link.call stack.recorded.recv = (payload, next)) :
    ∃ entry, entry.call = .recv payload ∧ Passes stack link [entry] next := by
  obtain ⟨entry, hcall, _, _, hpasses⟩ := passes_of_call h .recv
  exact ⟨entry, hcall, hpasses⟩

/-- Between two rounds the stack is asked for its delay, or nothing is called at all. -/
theorem passes_idle (stack : Stack σ) (link : Link (Recorded σ)) :
    ∃ made, Passes stack link made (link.idle stack.recorded) ∧ Uneventful made := by
  unfold idle
  cases link.config.pollInterval with
  | some delay => exact ⟨[], ⟨⟨(List.append_nil _).symm, .nil _⟩, rfl⟩, .nil⟩
  | none =>
      rcases hsleep : link.call stack.recorded.sleepTime with ⟨delay, next⟩
      obtain ⟨entry, hcall, _, _, hpasses⟩ := passes_of_call hsleep .sleepTime
      refine ⟨[entry], ⟨⟨hpasses.entries_eq, hpasses.calls⟩, hpasses.fault_eq⟩, ?_⟩
      exact .single hcall ⟨rfl, rfl, rfl⟩

/-! ## Loops -/

/-- While a transmission goes on, nothing is handed over, taken or goes wrong. -/
theorem Pumps.passes {start : Duration} {link last : Link (Recorded σ)}
    (h : Pumps stack.recorded start link last) :
    ∃ made, Passes stack link made last ∧ Uneventful made := by
  induction h with
  | here link => exact ⟨[], .refl link, .nil⟩
  | @round link looked stepped last hlook _ _ hstep _ ih =>
      obtain ⟨look, hlook, hlooked⟩ := passes_of_transmitting hlook
      obtain ⟨step, hstep, hstepped⟩ := passes_of_process hstep
      obtain ⟨pause, hpaused, hpause⟩ := passes_idle stack stepped
      obtain ⟨later, hlast, hlater⟩ := ih
      refine ⟨_, hlooked.trans (hstepped.trans (hpaused.trans hlast)), ?_⟩
      have hlook : Uneventful [look] := .single hlook ⟨rfl, rfl, rfl⟩
      have hstep : Uneventful [step] := .single hstep ⟨rfl, rfl, rfl⟩
      exact hlook.append (hstep.append (hpause.append hlater))

/-- What comes of one poll. -/
theorem passes_of_poll {link next : Link (Recorded σ)} {payload : Option Bytes}
    (h : await.poll stack.recorded link = (payload, next)) :
    ∃ made, Passes stack link made next ∧ handed made = [] ∧ failures made = [] ∧
      taken made = payload.toList := by
  unfold await.poll at h
  rcases hlook : link.call stack.recorded.available with ⟨_ | _, looked⟩
  · rw [hlook] at h
    cases h
    obtain ⟨look, hlook, hlooked⟩ := passes_of_available hlook
    refine ⟨[look], hlooked, ?_⟩
    rw [handed_cons, failures_cons, taken_cons, hlook]
    exact ⟨rfl, rfl, rfl⟩
  · simp only [hlook] at h
    obtain ⟨look, hlook, hlooked⟩ := passes_of_available hlook
    obtain ⟨take, htake, hnext⟩ := passes_of_recv h
    refine ⟨[look] ++ [take], hlooked.trans hnext, ?_⟩
    simp only [handed_append, failures_append, taken_append, handed_cons, failures_cons, taken_cons,
      hlook, htake]
    cases payload <;> exact ⟨rfl, rfl, rfl⟩

/-- While a wait goes on, nothing is handed over, taken or goes wrong. -/
theorem Waits.passes {timeout start : Duration} {link last : Link (Recorded σ)}
    (h : Waits stack.recorded timeout start link last) :
    ∃ made, Passes stack link made last ∧ Uneventful made := by
  induction h with
  | here link => exact ⟨[], .refl link, .nil⟩
  | @round link looked stepped last hpoll _ _ hstep _ ih =>
      obtain ⟨poll, hpolled, hhanded, hfailures, htaken⟩ := passes_of_poll hpoll
      obtain ⟨step, hstep, hstepped⟩ := passes_of_process hstep
      obtain ⟨pause, hpaused, hpause⟩ := passes_idle stack stepped
      obtain ⟨later, hlast, hlater⟩ := ih
      refine ⟨_, hpolled.trans (hstepped.trans (hpaused.trans hlast)), ?_⟩
      have hpoll : Uneventful poll := ⟨hhanded, htaken, hfailures⟩
      have hstep : Uneventful [step] := .single hstep ⟨rfl, rfl, rfl⟩
      exact hpoll.append (hstep.append (hpause.append hlater))

/-- Dropping what waits hands nothing over and cannot go wrong. -/
theorem Discarded.passes {link final : Link (Recorded σ)}
    (h : Discarded stack.recorded link final) :
    ∃ made, Passes stack link made final ∧ handed made = [] ∧ failures made = [] := by
  induction h with
  | nothing hlook =>
      obtain ⟨look, hlook, hlooked⟩ := passes_of_available hlook
      refine ⟨[look], hlooked, ?_⟩
      rw [handed_cons, failures_cons, hlook]
      exact ⟨rfl, rfl⟩
  | empty hlook htake =>
      obtain ⟨look, hlook, hlooked⟩ := passes_of_available hlook
      obtain ⟨take, htake, hnext⟩ := passes_of_recv htake
      refine ⟨[look] ++ [take], hlooked.trans hnext, ?_⟩
      rw [handed_append, failures_append, handed_cons, handed_cons, failures_cons, failures_cons,
        hlook, htake]
      exact ⟨rfl, rfl⟩
  | dropped hlook htake _ ih =>
      obtain ⟨look, hlook, hlooked⟩ := passes_of_available hlook
      obtain ⟨take, htake, hnext⟩ := passes_of_recv htake
      obtain ⟨later, hfinal, hhanded, hfailures⟩ := ih
      refine ⟨_, hlooked.trans (hnext.trans hfinal), ?_⟩
      rw [handed_append, handed_append, failures_append, failures_append, hhanded, hfailures,
        handed_cons, handed_cons, failures_cons, failures_cons, hlook, htake]
      exact ⟨rfl, rfl⟩

end Link

end Reflash
