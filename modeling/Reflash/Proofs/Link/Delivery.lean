import Reflash.Proofs.Link.Stale

/-!
# Deliveries

`Stack.Mailbox` asks less of a stack than `Stack.Inbox` does: what waits is a queue that is popped by
`recv` only, but anything may be put in during any call. However often and with whatever timeouts a
link receives over such a stack, the entries that waited and those that were put in are those that
were popped and those that wait in the end, in the same order (`Conserves`).

A receive is taken apart into the cycles of its loop. Each begins with one look and pops at most one
entry; a payload that is in front at a look is what the receive gives, whatever the flag and the
clock say (`Cycle`). `receives_in_order` puts together what follows for a run of receives.
-/

namespace Reflash

variable {σ α : Type} {stack : Stack σ}

namespace Stack

/-! ## Entries that are popped -/

/-- The entry that a call takes out of what waits. It may be empty. -/
def Call.popped? : Call → Option (Option Bytes)
  | .recv payload => some payload
  | _ => none

/-- Whether something waits, if the call asks for that. -/
def Call.asked? : Call → Option Bool
  | .available answer => some answer
  | _ => none

/-- The entries popped, in order. -/
def popped (made : List (Entry σ)) : List (Option Bytes) :=
  made.filterMap (·.call.popped?)

/-- The answers to whether something waits, in order. -/
def asked (made : List (Entry σ)) : List Bool :=
  made.filterMap (·.call.asked?)

/-- The entries popped in calls one after the other. -/
@[simp]
theorem popped_append (first second : List (Entry σ)) :
    popped (first ++ second) = popped first ++ popped second :=
  List.filterMap_append

/-- The answers in calls one after the other. -/
@[simp]
theorem asked_append (first second : List (Entry σ)) :
    asked (first ++ second) = asked first ++ asked second :=
  List.filterMap_append

/-- A call on its own pops one entry or none. -/
theorem popped_single {entry : Entry σ} {call : Call} (h : entry.call = call) :
    popped [entry] = call.popped?.toList := by
  subst h
  unfold popped
  cases hpopped : entry.call.popped? <;> simp [hpopped]

/-- A call on its own gives one answer or none. -/
theorem asked_single {entry : Entry σ} {call : Call} (h : entry.call = call) :
    asked [entry] = call.asked?.toList := by
  subst h
  unfold asked
  cases hasked : entry.call.asked? <;> simp [hasked]

/-- The payloads taken are those of the entries popped. -/
theorem reduceOption_popped (made : List (Entry σ)) : (popped made).reduceOption = taken made := by
  unfold popped taken List.reduceOption
  rw [List.filterMap_filterMap]
  congr 1
  funext entry
  cases entry.call <;> rfl

/-! ## Queues that fill at any time -/

/-- A view of the states of a stack as queues. Only `recv` pops an entry, the first one, and only
when there is one; during any call entries may be put in at the end. -/
structure Mailbox (stack : Stack σ) where
  /-- What waits, what is popped next first. An entry may hold no payload. -/
  entries : σ → List (Option Bytes)
  process_grows : ∀ around state, entries state <+: entries (stack.process around state).state
  sleepTime_grows : ∀ around state, entries state <+: entries (stack.sleepTime around state).state
  available_grows : ∀ around state, entries state <+: entries (stack.available around state).state
  available_of_ne_nil : ∀ around state, entries state ≠ [] →
    (stack.available around state).value = true
  ne_nil_of_available : ∀ around state, (stack.available around state).value = true →
    entries (stack.available around state).state ≠ []
  recv_pops : ∀ around state next rest, entries state = next :: rest →
    (stack.recv around state).value = next ∧ rest <+: entries (stack.recv around state).state

namespace Mailbox

/-- The payloads that wait. -/
def waiting (mailbox : stack.Mailbox) (state : σ) : List Bytes :=
  (mailbox.entries state).reduceOption

/-- The entries put in during a call: what waits after it, less what was left of what waited
before. -/
def put (mailbox : stack.Mailbox) (entry : Entry σ) : List (Option Bytes) :=
  (mailbox.entries entry.after).drop
    ((mailbox.entries entry.before).length - entry.call.popped?.toList.length)

/-- The entries put in during several calls, in order. -/
def puts (mailbox : stack.Mailbox) (made : List (Entry σ)) : List (Option Bytes) :=
  made.flatMap mailbox.put

/-- The payloads that arrived during several calls, in order. -/
def arrivals (mailbox : stack.Mailbox) (made : List (Entry σ)) : List Bytes :=
  (mailbox.puts made).reduceOption

end Mailbox

/-- A queue that is filled by `send` and `process` only is one that may be filled at any time. -/
def Inbox.mailbox (inbox : stack.Inbox) : stack.Mailbox where
  entries := inbox.entries
  process_grows := inbox.process_grows
  sleepTime_grows around state := inbox.sleepTime_keeps around state ▸ List.prefix_refl _
  available_grows around state := inbox.available_keeps around state ▸ List.prefix_refl _
  available_of_ne_nil around state h := by
    rw [inbox.available_eq, List.isEmpty_eq_false_iff.mpr h]
    rfl
  ne_nil_of_available around state h := by
    rw [inbox.available_eq, Bool.not_eq_true', List.isEmpty_eq_false_iff] at h
    rwa [inbox.available_keeps]
  recv_pops around state next rest h := by
    rw [inbox.recv_eq, inbox.recv_pops, h]
    exact ⟨rfl, List.prefix_refl _⟩

end Stack

namespace Link

open Stack

/-- The calls `made` lead from one link to another, and what waited and what was put in is what was
popped and what waits then, in the same order. -/
structure Conserves (mailbox : stack.Mailbox) (link : Link (Recorded σ)) (made : List (Entry σ))
    (final : Link (Recorded σ)) : Prop extends Leads stack link made final where
  entries_puts : mailbox.entries link.stack.inner ++ mailbox.puts made =
    popped made ++ mailbox.entries final.stack.inner

section Composition

variable {mailbox : stack.Mailbox} {link mid final : Link (Recorded σ)}
  {first second made : List (Entry σ)}

/-- Without calls nothing is lost. -/
theorem Conserves.refl (mailbox : stack.Mailbox) (link : Link (Recorded σ)) :
    Conserves mailbox link [] link where
  toLeads := (Passes.refl link).toLeads
  entries_puts := List.append_nil _

/-- If nothing is lost in calls and in those after them, then nothing is lost in both. -/
theorem Conserves.trans (hfirst : Conserves mailbox link first mid)
    (hsecond : Conserves mailbox mid second final) :
    Conserves mailbox link (first ++ second) final where
  toLeads := hfirst.toLeads.trans hsecond.toLeads
  entries_puts := by
    calc mailbox.entries link.stack.inner ++ mailbox.puts (first ++ second)
        = (mailbox.entries link.stack.inner ++ mailbox.puts first) ++ mailbox.puts second := by
          unfold Mailbox.puts
          rw [List.flatMap_append, List.append_assoc]
      _ = popped first ++ (mailbox.entries mid.stack.inner ++ mailbox.puts second) := by
          rw [hfirst.entries_puts, List.append_assoc]
      _ = popped (first ++ second) ++ mailbox.entries final.stack.inner := by
          rw [hsecond.entries_puts, popped_append, List.append_assoc]

/-- Taking the reason of a fault away is nothing to what waits. -/
theorem Conserves.reported (h : Conserves mailbox link made final) :
    Conserves mailbox link made final.reported :=
  ⟨h.toLeads.reported, h.entries_puts⟩

/-- The same of the payloads alone. -/
theorem Conserves.waiting_arrivals (h : Conserves mailbox link made final) :
    mailbox.waiting link.stack.inner ++ mailbox.arrivals made =
      taken made ++ mailbox.waiting final.stack.inner := by
  have hpayloads := congrArg List.reduceOption h.entries_puts
  rwa [List.reduceOption_append, List.reduceOption_append, reduceOption_popped] at hpayloads

end Composition

/-! ## Single calls -/

section Calls

variable (mailbox : stack.Mailbox) {link next : Link (Recorded σ)}

/-- A call that pops nothing only adds to what waits. -/
theorem conserves_of_grows {call : α → Call} {act : Surroundings → σ → Outcome σ α} {value : α}
    (h : link.call (note call act) = (value, next))
    (hmakes : ∀ around state, Makes stack (.of call act around state))
    (hpopped : (call value).popped? = none)
    (hgrows : ∀ around state, mailbox.entries state <+: mailbox.entries (act around state).state) :
    ∃ entry, entry.call = call value ∧ entry.before = link.stack.inner ∧
      Conserves mailbox link [entry] next := by
  obtain ⟨entry, hcall, hbefore, hafter, hpasses⟩ := passes_of_call h hmakes
  refine ⟨entry, hcall, hbefore, hpasses.toLeads, ?_⟩
  obtain ⟨new, hnew⟩ : mailbox.entries link.stack.inner <+: mailbox.entries next.stack.inner := by
    obtain ⟨_, rfl⟩ := Prod.mk.inj h
    exact hgrows _ _
  rw [popped_single hcall, hpopped]
  show _ ++ (mailbox.put entry ++ []) = [] ++ _
  unfold Mailbox.put
  rw [hcall, hpopped, hbefore, hafter, ← hnew]
  show _ ++ ((_ ++ new).drop (mailbox.entries link.stack.inner).length ++ []) = _
  rw [List.drop_left, List.append_nil, List.nil_append]

/-- Taking from what waits pops the first entry. -/
theorem conserves_of_recv {payload entry : Option Bytes} {rest : List (Option Bytes)}
    (h : link.call stack.recorded.recv = (payload, next))
    (hentries : mailbox.entries link.stack.inner = entry :: rest) :
    payload = entry ∧ ∃ take, take.call = .recv payload ∧ Conserves mailbox link [take] next := by
  obtain ⟨take, hcall, hbefore, hafter, hpasses⟩ := passes_of_call h .recv
  obtain ⟨hpayload, new, hnew⟩ :
      payload = entry ∧ rest <+: mailbox.entries next.stack.inner := by
    obtain ⟨rfl, rfl⟩ := Prod.mk.inj h
    exact mailbox.recv_pops _ _ _ _ hentries
  refine ⟨hpayload, take, hcall, hpasses.toLeads, ?_⟩
  rw [popped_single hcall, hentries, hpayload]
  show _ ++ (mailbox.put take ++ []) = [entry] ++ _
  unfold Mailbox.put
  rw [hcall, hbefore, hafter, hentries, ← hnew]
  show entry :: rest ++ ((rest ++ new).drop rest.length ++ []) = _
  rw [List.drop_left, List.append_nil]
  rfl

/-- Between two cycles nothing is popped and nobody looks. -/
theorem conserves_idle (link : Link (Recorded σ)) :
    ∃ pause, Conserves mailbox link pause (link.idle stack.recorded) ∧ popped pause = [] ∧
      asked pause = [] := by
  unfold idle
  cases link.config.pollInterval with
  | some delay =>
      have hrefl := Conserves.refl mailbox link
      exact ⟨[], ⟨⟨hrefl.entries_eq, hrefl.calls⟩, hrefl.entries_puts⟩, rfl, rfl⟩
  | none =>
      rcases hsleep : link.call stack.recorded.sleepTime with ⟨delay, next⟩
      obtain ⟨entry, hcall, _, hconserves⟩ :=
        conserves_of_grows mailbox hsleep .sleepTime rfl mailbox.sleepTime_grows
      refine ⟨[entry], ⟨⟨hconserves.entries_eq, hconserves.calls⟩, hconserves.entries_puts⟩, ?_, ?_⟩
      · exact popped_single hcall
      · exact asked_single hcall

/-- The answer to a look goes with what waits. What is put in during the look may count or not. -/
theorem ready_of_available {answer : Bool}
    (h : link.call stack.recorded.available = (answer, next)) :
    (mailbox.entries link.stack.inner ≠ [] → answer = true) ∧
      (answer = true → mailbox.entries next.stack.inner ≠ []) ∧
      mailbox.entries link.stack.inner <+: mailbox.entries next.stack.inner := by
  obtain ⟨rfl, rfl⟩ := Prod.mk.inj h
  exact ⟨mailbox.available_of_ne_nil _ _, mailbox.ne_nil_of_available _ _,
    mailbox.available_grows _ _⟩

/-- A poll looks once and pops at most one entry. -/
theorem conserves_of_poll {payload : Option Bytes}
    (h : await.poll stack.recorded link = (payload, next)) :
    ∃ look later answer, look.call = .available answer ∧ look.before = link.stack.inner ∧
      asked later = [] ∧ (popped later).length ≤ 1 ∧
      Conserves mailbox link (look :: later) next := by
  unfold await.poll at h
  rcases hlook : link.call stack.recorded.available with ⟨answer, looked⟩
  obtain ⟨look, hcall, hbefore, hlooked⟩ :=
    conserves_of_grows mailbox hlook .available rfl mailbox.available_grows
  cases answer with
  | false =>
      simp only [hlook] at h
      obtain ⟨rfl, rfl⟩ := Prod.mk.inj h
      exact ⟨look, [], false, hcall, hbefore, rfl, Nat.zero_le 1, hlooked⟩
  | true =>
      simp only [hlook] at h
      obtain ⟨_, hfilled, _⟩ := ready_of_available mailbox hlook
      obtain ⟨entry, others, hentries⟩ := List.exists_cons_of_ne_nil (hfilled rfl)
      obtain ⟨_, take, htake, hnext⟩ := conserves_of_recv mailbox h hentries
      refine ⟨look, [take], true, hcall, hbefore, asked_single htake, ?_, hlooked.trans hnext⟩
      rw [popped_single htake]
      exact Nat.le_refl 1

/-- A poll comes back with a payload that is in front. -/
theorem eq_some_of_poll {payload : Option Bytes} {first : Bytes} {rest : List (Option Bytes)}
    (h : await.poll stack.recorded link = (payload, next))
    (hfront : mailbox.entries link.stack.inner = some first :: rest) : payload = some first := by
  unfold await.poll at h
  rcases hlook : link.call stack.recorded.available with ⟨answer, looked⟩
  obtain ⟨hready, _, new, hnew⟩ := ready_of_available mailbox hlook
  have hanswer : answer = true := hready (by rw [hfront]; exact List.cons_ne_nil _ _)
  rw [hanswer] at hlook
  simp only [hlook] at h
  -- what was put in during the look stands behind the payload
  rw [hfront] at hnew
  exact (conserves_of_recv mailbox h hnew.symm).1

end Calls

/-! ## The cycles of a receive -/

/-- One cycle of the loop of a receive that ends with `result`. It begins with its only look at
whether something waits and pops at most one entry. A payload in front at the look is the result. -/
inductive Cycle (mailbox : stack.Mailbox) (result : Except Error (Option Bytes)) :
    List (Entry σ) → Prop where
  | intro {look later answer} : look.call = .available answer → asked later = [] →
      (popped later).length ≤ 1 →
      (∀ first rest, mailbox.entries look.before = some first :: rest →
        result = .ok (some first)) →
      Cycle mailbox result (look :: later)

section Cycles

variable {timeout start : Duration} {link last looked : Link (Recorded σ)}

/-- The cycle that a poll begins, with the calls behind the poll in which nothing is popped. -/
theorem cycle_of_poll {payload : Option Bytes} (mailbox : stack.Mailbox)
    (result : Except Error (Option Bytes)) (h : await.poll stack.recorded last = (payload, looked))
    (hresult : ∀ first, payload = some first → result = .ok (some first)) :
    ∃ polled, Conserves mailbox last polled looked ∧
      ∀ behind, popped behind = [] → asked behind = [] →
        Cycle mailbox result (polled ++ behind) := by
  obtain ⟨look, later, answer, hcall, hbefore, hasked, hpopped, hconserves⟩ :=
    conserves_of_poll mailbox h
  refine ⟨look :: later, hconserves, fun behind hnone hquiet => ?_⟩
  rw [List.cons_append]
  refine .intro hcall ?_ ?_ ?_
  · rw [asked_append, hasked, hquiet, List.append_nil]
  · rw [popped_append, hnone, List.append_nil]
    exact hpopped
  · intro first rest hentries
    exact hresult first (eq_some_of_poll mailbox h (hbefore ▸ hentries))

/-- While a wait goes on, nothing but empty entries is in front. -/
theorem Waits.cycles (mailbox : stack.Mailbox) (result : Except Error (Option Bytes))
    (h : Waits stack.recorded timeout start link last) :
    ∃ cycles : List (List (Entry σ)), Conserves mailbox link cycles.flatten last ∧
      ∀ cycle ∈ cycles, Cycle mailbox result cycle := by
  induction h with
  | here link => exact ⟨[], .refl mailbox link, fun cycle hcycle => absurd hcycle List.not_mem_nil⟩
  | @round link looked stepped last hpoll _ _ hstep _ ih =>
      obtain ⟨polled, hpolled, hcycle⟩ := cycle_of_poll mailbox result hpoll
        fun first hfirst => absurd hfirst (Option.some_ne_none first).symm
      obtain ⟨step, hcall, _, hstepped⟩ :=
        conserves_of_grows mailbox hstep .process rfl mailbox.process_grows
      obtain ⟨pause, hpaused, hpopped, hasked⟩ := conserves_idle mailbox stepped
      obtain ⟨cycles, hlast, hcycles⟩ := ih
      refine ⟨(polled ++ ([step] ++ pause)) :: cycles, ?_, ?_⟩
      · exact (hpolled.trans (hstepped.trans hpaused)).trans hlast
      · intro cycle hmem
        rcases List.mem_cons.mp hmem with rfl | hlater
        · apply hcycle
          · rw [popped_append, popped_single hcall, hpopped]
            rfl
          · rw [asked_append, asked_single hcall, hasked]
            rfl
        · exact hcycles cycle hlater

/-- A receive is a number of cycles, the last of which it ends in. -/
theorem Awaited.cycles {result : Except Error (Option Bytes)} {final : Link (Recorded σ)}
    (mailbox : stack.Mailbox) (h : Awaited stack.recorded timeout start link result final) :
    ∃ cycles : List (List (Entry σ)), Conserves mailbox link cycles.flatten final ∧
      ∀ cycle ∈ cycles, Cycle mailbox result cycle := by
  -- what is known once the last poll and the calls behind it are added
  have hended : ∀ {last looked final payload behind},
      Waits stack.recorded timeout start link last →
      await.poll stack.recorded last = (payload, looked) →
      (∀ first, payload = some first → result = .ok (some first)) →
      Conserves mailbox looked behind final → popped behind = [] → asked behind = [] →
      ∃ cycles : List (List (Entry σ)), Conserves mailbox link cycles.flatten final ∧
        ∀ cycle ∈ cycles, Cycle mailbox result cycle := by
    intro last looked final payload behind hwaits hpoll hresult hbehind hpopped hasked
    obtain ⟨cycles, hlast, hcycles⟩ := hwaits.cycles mailbox result
    obtain ⟨polled, hpolled, hcycle⟩ := cycle_of_poll mailbox result hpoll hresult
    refine ⟨cycles ++ [polled ++ behind], ?_, ?_⟩
    · rw [List.flatten_append, List.flatten_singleton]
      exact hlast.trans (hpolled.trans hbehind)
    · intro cycle hmem
      rcases List.mem_append.mp hmem with hearlier | hhere
      · exact hcycles cycle hearlier
      · rw [List.mem_singleton.mp hhere]
        exact hcycle behind hpopped hasked
  have hnone (first : Bytes) (h : (none : Option Bytes) = some first) : result = .ok (some first) :=
    absurd h (Option.some_ne_none first).symm
  cases h with
  | came hwaits hpoll =>
      exact hended hwaits hpoll (fun first hfirst => hfirst ▸ rfl) (.refl mailbox final) rfl rfl
  | fault hwaits hpoll _ =>
      exact hended hwaits hpoll hnone (Conserves.refl mailbox _).reported rfl rfl
  | late hwaits hpoll _ _ => exact hended hwaits hpoll hnone (.refl mailbox final) rfl rfl
  | broken hwaits hpoll _ _ hstep =>
      obtain ⟨step, hcall, _, hstepped⟩ :=
        conserves_of_grows mailbox hstep .process rfl mailbox.process_grows
      exact hended hwaits hpoll hnone hstepped (popped_single hcall) (asked_single hcall)

/-- What a receive pops, but for empty entries, is the payload that it gives. -/
theorem exists_cycles_of_receive (mailbox : stack.Mailbox) {rounds : Nat} {timeout : Duration}
    {link : Link (Recorded σ)} {reply : Reply (Link (Recorded σ)) (Option Bytes)}
    (h : receive stack.recorded rounds link timeout = some reply) :
    ∃ cycles : List (List (Entry σ)), Conserves mailbox link cycles.flatten reply.state ∧
      taken cycles.flatten = received reply.result ∧
      ∀ cycle ∈ cycles, Cycle mailbox reply.result cycle := by
  have hawaited := awaited_of_await h
  obtain ⟨cycles, hconserves, hcycles⟩ := hawaited.cycles mailbox
  obtain ⟨made, hleads, _, htaken⟩ := hawaited.leads
  have hsame : cycles.flatten = made :=
    List.append_cancel_left (hconserves.entries_eq.symm.trans hleads.entries_eq)
  exact ⟨cycles, hconserves, hsame ▸ htaken, hcycles⟩

end Cycles

/-! ## Runs of receives -/

/-- Any number of receives, one after the other, with their results. -/
inductive Receives (stack : Stack σ) :
    Link σ → List (Except Error (Option Bytes)) → Link σ → Prop where
  | nil (link) : Receives stack link [] link
  | cons (rounds) {link} (timeout) {reply result results final} :
      receive stack rounds link timeout = some reply → reply.result = result →
      Receives stack reply.state results final → Receives stack link (result :: results) final

/-- What a run of receives pops, but for empty entries, are the payloads that it gives. -/
theorem Receives.conserves (mailbox : stack.Mailbox) {link final : Link (Recorded σ)}
    {results : List (Except Error (Option Bytes))}
    (h : Receives stack.recorded link results final) :
    ∃ made, Conserves mailbox link made final ∧ taken made = results.flatMap received := by
  induction h with
  | nil link => exact ⟨[], .refl mailbox link, rfl⟩
  | cons rounds timeout hreceive hresult _ ih =>
      subst hresult
      obtain ⟨cycles, hfirst, hreceived, _⟩ := exists_cycles_of_receive mailbox hreceive
      obtain ⟨later, hlater, hresults⟩ := ih
      refine ⟨cycles.flatten ++ later, hfirst.trans hlater, ?_⟩
      rw [taken_append, hreceived, hresults, List.flatMap_cons]

/-- A run of receives gives the same results while its calls are kept. -/
theorem Receives.watched {link final : Link σ} {results : List (Except Error (Option Bytes))}
    (h : Receives stack link results final) (made : List (Entry σ)) :
    ∃ all, Receives stack.recorded (link.watched made) results (final.watched all) := by
  induction h generalizing made with
  | nil link => exact ⟨made, .nil _⟩
  | cons rounds timeout hreceive hresult _ ih =>
      obtain ⟨first, hwatched⟩ := exists_receive_watched made hreceive
      obtain ⟨all, hlater⟩ := ih first
      exact ⟨all, .cons rounds timeout hwatched hresult hlater⟩

/-- A payload in front at a poll that a receive comes to is received, as soon as the rounds
suffice. -/
theorem Waits.eventually_received (mailbox : stack.Mailbox) {timeout : Duration}
    {link last : Link (Recorded σ)} {first : Bytes} {rest : List (Option Bytes)}
    (h : Waits stack.recorded timeout link.clock link last)
    (hfront : mailbox.entries last.stack.inner = some first :: rest) :
    ∃ needed, ∀ rounds ≥ needed, ∃ reply,
      receive stack.recorded rounds link timeout = some reply ∧
        reply.result = .ok (some first) := by
  rcases hpoll : await.poll stack.recorded last with ⟨payload, looked⟩
  rw [eq_some_of_poll mailbox hpoll hfront] at hpoll
  obtain ⟨needed, hneeded⟩ := h.eventually_came hpoll
  refine ⟨needed, fun rounds hrounds => ?_⟩
  obtain ⟨log, hreceive⟩ := hneeded rounds hrounds
  exact ⟨_, hreceive, rfl⟩

/-- Receiving neither loses, duplicates nor reorders payloads. Over a run of receives, the payloads
given and then those that wait in the end are those that waited and then those that arrived; what
arrived is told by the calls on the stack, whether these are kept or not. In one receive, the entries
popped are the first of those that waited and were put in; the payload among them, if there is one,
is the one given, so a receive without a payload pops empty entries only, and at most one in each
cycle of its loop. A payload that is in front at a look is given, and the receive that comes to such
a look does come back with it, whatever the flag and the clock say. -/
theorem receives_in_order (mailbox : stack.Mailbox) :
    (∀ (link final : Link (Recorded σ)) (results : List (Except Error (Option Bytes))),
      Receives stack.recorded link results final →
        ∃ made, final.stack.entries = link.stack.entries ++ made ∧
          results.flatMap received ++ mailbox.waiting final.stack.inner =
            mailbox.waiting link.stack.inner ++ mailbox.arrivals made) ∧
    (∀ (link final : Link σ) (results : List (Except Error (Option Bytes))),
      Receives stack link results final →
        ∃ made, Receives stack.recorded (link.watched []) results (final.watched made) ∧
          results.flatMap received ++ mailbox.waiting final.stack =
            mailbox.waiting link.stack ++ mailbox.arrivals made) ∧
    (∀ (rounds : Nat) (link : Link (Recorded σ)) (timeout : Duration)
      (reply : Reply (Link (Recorded σ)) (Option Bytes)),
      receive stack.recorded rounds link timeout = some reply →
        ∃ cycles : List (List (Entry σ)),
          reply.state.stack.entries = link.stack.entries ++ cycles.flatten ∧
          mailbox.entries link.stack.inner ++ mailbox.puts cycles.flatten =
            popped cycles.flatten ++ mailbox.entries reply.state.stack.inner ∧
          (popped cycles.flatten).reduceOption = received reply.result ∧
          ∀ cycle ∈ cycles, Cycle mailbox reply.result cycle) ∧
    (∀ (timeout : Duration) (link last : Link (Recorded σ)) (first : Bytes)
      (rest : List (Option Bytes)), Waits stack.recorded timeout link.clock link last →
        mailbox.entries last.stack.inner = some first :: rest →
          ∃ needed, ∀ rounds ≥ needed, ∃ reply,
            receive stack.recorded rounds link timeout = some reply ∧
              reply.result = .ok (some first)) := by
  have hrecorded : ∀ (link final : Link (Recorded σ)) (results : List (Except Error (Option Bytes))),
      Receives stack.recorded link results final →
        ∃ made, final.stack.entries = link.stack.entries ++ made ∧
          results.flatMap received ++ mailbox.waiting final.stack.inner =
            mailbox.waiting link.stack.inner ++ mailbox.arrivals made := by
    intro link final results h
    obtain ⟨made, hconserves, htaken⟩ := h.conserves mailbox
    refine ⟨made, hconserves.entries_eq, ?_⟩
    rw [← htaken, hconserves.waiting_arrivals]
  refine ⟨hrecorded, ?_, ?_, fun _ _ _ _ _ => Waits.eventually_received mailbox⟩
  · intro link final results h
    obtain ⟨all, hwatched⟩ := h.watched []
    obtain ⟨made, hentries, hconserved⟩ := hrecorded _ _ _ hwatched
    -- nothing was kept before the run, so the calls made are all that are kept
    rw [entries_watched, entries_watched, List.nil_append] at hentries
    rw [← hentries] at hconserved
    exact ⟨all, hwatched, hconserved⟩
  · intro rounds link timeout reply h
    obtain ⟨cycles, hconserves, htaken, hcycles⟩ := exists_cycles_of_receive mailbox h
    refine ⟨cycles, hconserves.entries_eq, hconserves.entries_puts, ?_, hcycles⟩
    rw [reduceOption_popped, htaken]

open Simulation

/-- A rig with an empty entry in front of a payload, while the flag is raised. -/
def disturbed : Link Rig where
  stack := { Rig.quiet 0 with inbox := [none, some [1]] }
  fault := .raised (some "bus off")
  config := .standard
  clock := .zero

/-- The first receive ends in the fault and pops the empty entry only. The second one gives the
payload although the flag is still raised and no time is left, and nothing waits for the third. -/
theorem receives_in_order_disturbed :
    ∃ reply final, receive Rig.stack.recorded 1 (disturbed.watched []) .zero = some reply ∧
      reply.result = .error (.transportFault "bus off") ∧
      (∃ cycles : List (List (Entry Rig)), (popped cycles.flatten).reduceOption = [] ∧
        ∀ cycle ∈ cycles, Cycle Rig.queue.mailbox reply.result cycle) ∧
      (∃ needed, ∀ rounds ≥ needed, ∃ later,
        receive Rig.stack.recorded rounds reply.state .zero = some later ∧
          later.result = .ok (some [1])) ∧
      Receives Rig.stack.recorded reply.state
        [.ok (some [1]), .error (.transportFault unknownReason)] final ∧
      ∃ made, [[1]] ++ Rig.queue.mailbox.waiting final.stack.inner =
        Rig.queue.mailbox.waiting reply.state.stack.inner ++ Rig.queue.mailbox.arrivals made := by
  obtain ⟨hruns, _, hsingle, hfront⟩ := receives_in_order Rig.queue.mailbox
  obtain ⟨reply, final, hreceive, hresult, hwaits, hrun⟩ : ∃ reply final,
      receive Rig.stack.recorded 1 (disturbed.watched []) .zero = some reply ∧
        reply.result = .error (.transportFault "bus off") ∧
        reply.state.stack.inner.inbox = [some [1]] ∧
        Receives Rig.stack.recorded reply.state
          [.ok (some [1]), .error (.transportFault unknownReason)] final :=
    ⟨_, _, rfl, rfl, rfl, .cons 1 .zero rfl rfl (.cons 1 .zero rfl rfl (.nil _))⟩
  obtain ⟨cycles, _, _, hpopped, hcycles⟩ := hsingle 1 (disturbed.watched []) .zero reply hreceive
  obtain ⟨made, _, hconserved⟩ := hruns reply.state final _ hrun
  rw [hresult] at hpopped
  exact ⟨reply, final, hreceive, hresult, ⟨cycles, hpopped, hcycles⟩,
    hfront .zero reply.state reply.state [1] [] (.here reply.state) hwaits, hrun, made, hconserved⟩

end Link

end Reflash
