import Mathlib.Algebra.Order.Floor.Div
import Reflash.Proofs.Link.Delivery

/-!
# Bounds for the waits of a link

A loop of a link makes no step once its time is up, and between two steps it pauses. So if every
pause takes some time, one send or one receive makes no more steps than there are pauses in its
time, whatever the stack does. `Within` is what every round of a loop keeps of this.

Dropping what waits has no time of its own. It ends because `recv` takes one of the entries away
that wait, which `Stack.Stock` counts. `waits_are_bounded` puts the bounds together and says that
the operations come back.
-/

namespace Reflash

variable {σ α : Type} {stack : Stack σ}

namespace Stack

/-! ## Steps -/

/-- The result of the step that a call makes. -/
def Call.processed? : Call → Option (Except Error Unit)
  | .process result => some result
  | _ => none

/-- The results of the steps made, in order. -/
def processed (made : List (Entry σ)) : List (Except Error Unit) :=
  made.filterMap (·.call.processed?)

/-- The steps of calls one after the other. -/
@[simp]
theorem processed_append (first second : List (Entry σ)) :
    processed (first ++ second) = processed first ++ processed second :=
  List.filterMap_append

/-- The first call is a step or none. -/
@[simp]
theorem processed_cons (entry : Entry σ) (made : List (Entry σ)) :
    processed (entry :: made) = entry.call.processed?.toList ++ processed made := by
  simp only [processed, List.filterMap_eq_flatMap_toList, List.flatMap_cons]

/-- A call on its own is a step or none. -/
theorem processed_single {entry : Entry σ} {call : Call} (h : entry.call = call) :
    processed [entry] = call.processed?.toList := by
  rw [processed_cons, h]
  exact List.append_nil _

/-! ## Stocks -/

/-- A count of the entries that wait in a stack. Asking whether there are any does not add to them,
and `recv`, called when the answer was yes, takes one away and puts none in. -/
structure Stock (stack : Stack σ) where
  /-- How many entries wait, those that hold no payload among them. -/
  count : σ → Nat
  count_available_le : ∀ around state, count (stack.available around state).state ≤ count state
  count_recv_lt : ∀ around later state, (stack.available around state).value = true →
    count (stack.recv later (stack.available around state).state).state <
      count (stack.available around state).state

/-- The entries of an inbox can be counted. -/
def Inbox.stock (inbox : stack.Inbox) : stack.Stock where
  count state := (inbox.entries state).length
  count_available_le around state := Nat.le_of_eq (by rw [inbox.available_keeps])
  count_recv_lt around later state hready := by
    rw [inbox.available_eq, Bool.not_eq_true', List.isEmpty_eq_false_iff] at hready
    rw [inbox.recv_pops, inbox.available_keeps, List.length_tail]
    exact Nat.sub_lt (List.length_pos_iff.mpr hready) Nat.zero_lt_one

end Stack

namespace Link

open Stack

/-! ## Time that goes by -/

/-- With these settings, each pause between two steps takes `delay` at least. -/
def Unhurried (stack : Stack σ) (delay : Duration) (config : Config) : Prop :=
  ∀ link : Link σ, link.config = config →
    link.clock.nanoseconds + delay.nanoseconds ≤ (link.idle stack).clock.nanoseconds

/-- A call leaves the settings alone, and the clock does not go back in it. -/
theorem config_clock_of_call {link next : Link σ} {act : Surroundings → σ → Outcome σ α} {value : α}
    (h : link.call act = (value, next)) :
    next.config = link.config ∧ link.clock.nanoseconds ≤ next.clock.nanoseconds := by
  obtain ⟨_, rfl⟩ := Prod.mk.inj h
  exact ⟨rfl, Nat.le_add_right _ _⟩

/-- Neither does it in a poll. -/
theorem config_clock_of_poll {link next : Link σ} {payload : Option Bytes}
    (h : await.poll stack link = (payload, next)) :
    next.config = link.config ∧ link.clock.nanoseconds ≤ next.clock.nanoseconds := by
  unfold await.poll at h
  rcases hlook : link.call stack.available with ⟨_ | _, looked⟩
  · simp only [hlook] at h
    cases h
    exact config_clock_of_call hlook
  · simp only [hlook] at h
    obtain ⟨hconfig, hlooked⟩ := config_clock_of_call hlook
    obtain ⟨hsame, hnext⟩ := config_clock_of_call h
    exact ⟨hsame.trans hconfig, Nat.le_trans hlooked hnext⟩

/-- A pause leaves the settings alone. -/
theorem config_idle (stack : Stack σ) (link : Link σ) : (link.idle stack).config = link.config := by
  unfold idle
  split <;> rfl

/-- The clock never goes back. -/
theorem unhurried_zero (stack : Stack σ) (config : Config) : Unhurried stack .zero config := by
  intro link _
  unfold idle
  split
  · exact Nat.le_add_right _ _
  · rcases hsleep : link.call stack.sleepTime with ⟨interval, asked⟩
    exact Nat.le_trans (config_clock_of_call hsleep).2 (Nat.le_add_right _ _)

/-- Keeping the calls beside a stack makes no pause shorter. -/
theorem Unhurried.recorded {delay : Duration} {config : Config}
    (h : Unhurried stack delay config) : Unhurried stack.recorded delay config := by
  intro link hconfig
  have hclock : (link.idle stack.recorded).clock = (link.unwatched.idle stack).clock :=
    congrArg Link.clock (idle_unwatched link)
  rw [hclock]
  exact h link.unwatched hconfig

/-- The calls `made` lead from one link to another. The settings stay as they are, and this much
time goes by at least. -/
structure Spends (stack : Stack σ) (link : Link (Recorded σ)) (made : List (Entry σ)) (least : Nat)
    (final : Link (Recorded σ)) : Prop extends Leads stack link made final where
  config_eq : final.config = link.config
  clock_le : link.clock.nanoseconds + least ≤ final.clock.nanoseconds

section Spends

variable {link mid next final : Link (Recorded σ)} {first second made : List (Entry σ)}
  {least more : Nat}

/-- Calls one after the other take the time of both. -/
theorem Spends.trans (hfirst : Spends stack link first least mid)
    (hsecond : Spends stack mid second more final) :
    Spends stack link (first ++ second) (least + more) final where
  toLeads := hfirst.toLeads.trans hsecond.toLeads
  config_eq := hsecond.config_eq.trans hfirst.config_eq
  clock_le := by
    have hbefore := hfirst.clock_le
    have hafter := hsecond.clock_le
    omega

/-- A call on the stack leaves the settings alone, and time does not run back in it. -/
theorem spends_of_call {call : α → Call} {act : Surroundings → σ → Outcome σ α} {value : α}
    (h : link.call (note call act) = (value, next))
    (hmakes : ∀ around state, Makes stack (.of call act around state)) :
    ∃ entry, entry.call = call value ∧ Spends stack link [entry] 0 next := by
  obtain ⟨entry, hcall, _, _, hpasses⟩ := passes_of_call h hmakes
  obtain ⟨hconfig, hclock⟩ := config_clock_of_call h
  exact ⟨entry, hcall, hpasses.toLeads, hconfig, hclock⟩

/-- A poll makes no step. -/
theorem spends_of_poll {payload : Option Bytes}
    (h : await.poll stack.recorded link = (payload, next)) :
    ∃ made, Spends stack link made 0 next ∧ processed made = [] := by
  unfold await.poll at h
  rcases hlook : link.call stack.recorded.available with ⟨_ | _, looked⟩
  · rw [hlook] at h
    cases h
    obtain ⟨look, hcall, hlooked⟩ := spends_of_call hlook .available
    exact ⟨[look], hlooked, processed_single hcall⟩
  · simp only [hlook] at h
    obtain ⟨look, hcall, hlooked⟩ := spends_of_call hlook .available
    obtain ⟨take, htake, hnext⟩ := spends_of_call h .recv
    refine ⟨[look] ++ [take], hlooked.trans hnext, ?_⟩
    rw [processed_append, processed_single hcall, processed_single htake]
    rfl

/-- A pause makes no step, and takes its time. -/
theorem spends_idle {delay : Duration} (hpause : Unhurried stack delay link.config) :
    ∃ made, Spends stack link made delay.nanoseconds (link.idle stack.recorded) ∧
      processed made = [] := by
  have hclock := hpause.recorded link rfl
  have hconfig := config_idle stack.recorded link
  have hleads : ∃ made, Leads stack link made (link.idle stack.recorded) ∧ processed made = [] := by
    unfold idle
    cases link.config.pollInterval with
    | some interval => exact ⟨[], ⟨(List.append_nil _).symm, .nil _⟩, rfl⟩
    | none =>
        rcases hsleep : link.call stack.recorded.sleepTime with ⟨interval, asked⟩
        obtain ⟨entry, hcall, hasked⟩ := spends_of_call hsleep .sleepTime
        exact ⟨[entry], ⟨hasked.entries_eq, hasked.calls⟩, processed_single hcall⟩
  obtain ⟨made, hmade, hnone⟩ := hleads
  exact ⟨made, ⟨hmade, hconfig, hclock⟩, hnone⟩

/-- Dropping what waits makes no step. -/
theorem Discarded.spends (h : Discarded stack.recorded link final) :
    ∃ made, Spends stack link made 0 final ∧ processed made = [] := by
  induction h with
  | nothing hlook =>
      obtain ⟨look, hcall, hlooked⟩ := spends_of_call hlook .available
      exact ⟨[look], hlooked, processed_single hcall⟩
  | empty hlook htake =>
      obtain ⟨look, hcall, hlooked⟩ := spends_of_call hlook .available
      obtain ⟨take, htake, hnext⟩ := spends_of_call htake .recv
      refine ⟨[look] ++ [take], hlooked.trans hnext, ?_⟩
      rw [processed_append, processed_single hcall, processed_single htake]
      rfl
  | dropped hlook htake _ ih =>
      obtain ⟨look, hcall, hlooked⟩ := spends_of_call hlook .available
      obtain ⟨take, htake, hnext⟩ := spends_of_call htake .recv
      obtain ⟨later, hlater, hnone⟩ := ih
      refine ⟨[look] ++ ([take] ++ later), hlooked.trans (hnext.trans hlater), ?_⟩
      rw [processed_append, processed_append, processed_single hcall, processed_single htake, hnone]
      rfl

end Spends

/-! ## Rounds within a limit -/

/-- The calls `made` are those of rounds of a loop with a deadline. Each step in them is followed by
a pause of `delay` at least, and the last of them began before `limit` had gone by since `start`. -/
structure Within (stack : Stack σ) (delay start limit : Duration) (link : Link (Recorded σ))
    (made : List (Entry σ)) (last : Link (Recorded σ)) : Prop extends
    Spends stack link made ((processed made).length * delay.nanoseconds) last where
  begun : processed made = [] ∨
    link.clock.nanoseconds + ((processed made).length - 1) * delay.nanoseconds <
      start.nanoseconds + limit.nanoseconds

section Within

variable {delay start limit timeout : Duration} {link last looked stepped final : Link (Recorded σ)}
  {seen later : List (Entry σ)}

/-- A loop that has not begun is within its time. -/
theorem Within.refl (link : Link (Recorded σ)) : Within stack delay start limit link [] link where
  toLeads := (Passes.refl link).toLeads
  config_eq := rfl
  clock_le := by simp [processed]
  begun := .inl rfl

/-- As long as the limit is not reached, it lies ahead. -/
theorem lt_of_not_reached {clock : Duration} (h : (clock.since start).reached limit = false) :
    clock.nanoseconds < start.nanoseconds + limit.nanoseconds := by
  have hshort : clock.nanoseconds - start.nanoseconds < limit.nanoseconds :=
    Nat.lt_of_not_le (of_decide_eq_false h)
  omega

/-- A round in front: a look, a step that begins in time, and a pause. -/
theorem Within.round {step : Entry σ} {result : Except Error Unit} {pause : List (Entry σ)}
    {paused : Link (Recorded σ)} (hlook : Spends stack link seen 0 looked)
    (hseen : processed seen = [])
    (htime : (looked.clock.since start).reached limit = false)
    (hcall : step.call = .process result) (hstep : Spends stack looked [step] 0 stepped)
    (hpause : Spends stack stepped pause delay.nanoseconds paused) (hnone : processed pause = [])
    (hrest : Within stack delay start limit paused later last) :
    Within stack delay start limit link (seen ++ ([step] ++ (pause ++ later))) last := by
  have hcount : (processed (seen ++ ([step] ++ (pause ++ later)))).length =
      (processed later).length + 1 := by
    rw [processed_append, processed_append, processed_append, hseen, hnone, processed_single hcall]
    rfl
  have hspent := hlook.trans (hstep.trans (hpause.trans hrest.toSpends))
  refine ⟨⟨hspent.toLeads, hspent.config_eq, ?_⟩, .inr ?_⟩
  · have hclock := hspent.clock_le
    rw [hcount, Nat.succ_mul]
    omega
  · rw [hcount, Nat.add_sub_cancel]
    have hlooked := hlook.clock_le
    have hstepped := hstep.clock_le
    have hpaused := hpause.clock_le
    have hahead := lt_of_not_reached htime
    rcases hrest.begun with hnothing | hlast
    · -- the step of this round is the last one
      rw [hnothing, List.length_nil, Nat.zero_mul]
      omega
    · cases hrounds : (processed later).length with
      | zero =>
          rw [Nat.zero_mul]
          omega
      | succ rounds =>
          rw [hrounds, Nat.add_sub_cancel] at hlast
          rw [Nat.succ_mul]
          omega

/-- The rounds of a transmission keep within the timeout for sends. -/
theorem Pumps.within (hpause : Unhurried stack delay link.config)
    (h : Pumps stack.recorded start link last) :
    ∃ made, Within stack delay start link.config.sendTimeout link made last := by
  induction h with
  | here link => exact ⟨[], .refl link⟩
  | @round link looked stepped last hlook _ htime hstep _ ih =>
      obtain ⟨look, hcall, hlooked⟩ := spends_of_call hlook .transmitting
      obtain ⟨step, hprocess, hstepped⟩ := spends_of_call hstep .process
      have hconfig : stepped.config = link.config := hstepped.config_eq.trans hlooked.config_eq
      obtain ⟨pause, hpaused, hnone⟩ := spends_idle (hconfig ▸ hpause)
      have hlast := hpaused.config_eq.trans hconfig
      obtain ⟨later, hlater⟩ := ih (hlast ▸ hpause)
      rw [hlast] at hlater
      rw [hlooked.config_eq] at htime
      have hseen : processed [look] = [] := processed_single hcall
      exact ⟨_, .round hlooked hseen htime hprocess hstepped hpaused hnone hlater⟩

/-- The rounds of a wait keep within its timeout. -/
theorem Waits.within (hpause : Unhurried stack delay link.config)
    (h : Waits stack.recorded timeout start link last) :
    ∃ made, Within stack delay start timeout link made last := by
  induction h with
  | here link => exact ⟨[], .refl link⟩
  | @round link looked stepped last hpoll _ htime hstep _ ih =>
      obtain ⟨seen, hlooked, hseen⟩ := spends_of_poll hpoll
      obtain ⟨step, hprocess, hstepped⟩ := spends_of_call hstep .process
      have hconfig : stepped.config = link.config := hstepped.config_eq.trans hlooked.config_eq
      obtain ⟨pause, hpaused, hnone⟩ := spends_idle (hconfig ▸ hpause)
      obtain ⟨later, hlater⟩ := ih ((hpaused.config_eq.trans hconfig) ▸ hpause)
      exact ⟨_, .round hlooked hseen htime hprocess hstepped hpaused hnone hlater⟩

/-- At most so many steps are made that the last of them begins in time. -/
def Timely (delay limit : Duration) (made : List (Entry σ)) : Prop :=
  processed made = [] ∨ ((processed made).length - 1) * delay.nanoseconds < limit.nanoseconds

/-- The rounds of a loop and the look that ends it. -/
theorem Within.timely_look (h : Within stack delay link.clock limit link later last)
    (hlook : processed seen = []) : Timely delay limit (later ++ seen) := by
  unfold Timely
  rw [processed_append, hlook, List.append_nil]
  exact h.begun.imp_right Nat.lt_of_add_lt_add_left

/-- The rounds of a loop and a step that ends it. -/
theorem Within.timely_step (h : Within stack delay link.clock limit link later last)
    (hlook : Spends stack last seen 0 looked) (hseen : processed seen = [])
    (htime : (looked.clock.since link.clock).reached limit = false) {step : Entry σ}
    {result : Except Error Unit} (hstep : step.call = .process result) :
    Timely delay limit (later ++ (seen ++ [step])) := by
  right
  have hcount : (processed (later ++ (seen ++ [step]))).length = (processed later).length + 1 := by
    rw [processed_append, processed_append, hseen, processed_single hstep, List.length_append]
    rfl
  have hrounds := h.clock_le
  have hlooked := hlook.clock_le
  have hahead := lt_of_not_reached htime
  rw [hcount, Nat.add_sub_cancel]
  omega

/-- However a transmission ends, its steps are timely. -/
theorem Transmitted.timely {size : Nat} {result : Except Error Unit}
    (hpause : Unhurried stack delay link.config)
    (h : Transmitted stack.recorded size link.clock link result final) :
    ∃ made, Leads stack link made final ∧ Timely delay link.config.sendTimeout made := by
  -- what is known at the look that ends the transmission
  have hlooked : ∀ {last looked : Link (Recorded σ)} {answer},
      Pumps stack.recorded link.clock link last →
      last.call stack.recorded.transmitting = (answer, looked) →
      ∃ made seen, Within stack delay link.clock link.config.sendTimeout link made last ∧
        Spends stack last seen 0 looked ∧ processed seen = [] := by
    intro last looked answer hpumps hlook
    obtain ⟨made, hmade⟩ := hpumps.within hpause
    obtain ⟨look, hcall, hspends⟩ := spends_of_call hlook .transmitting
    exact ⟨made, [look], hmade, hspends, processed_single hcall⟩
  cases h with
  | out hpumps hlook _ | late hpumps hlook _ _ =>
      obtain ⟨made, seen, hmade, hseen, hnone⟩ := hlooked hpumps hlook
      exact ⟨_, hmade.toLeads.trans hseen.toLeads, hmade.timely_look hnone⟩
  | fault hpumps hlook _ =>
      obtain ⟨made, seen, hmade, hseen, hnone⟩ := hlooked hpumps hlook
      exact ⟨_, (hmade.toLeads.trans hseen.toLeads).reported, hmade.timely_look hnone⟩
  | broken hpumps hlook _ htime hstep =>
      obtain ⟨made, seen, hmade, hseen, hnone⟩ := hlooked hpumps hlook
      obtain ⟨step, hcall, hfinal⟩ := spends_of_call hstep .process
      rw [hseen.config_eq, hmade.config_eq] at htime
      exact ⟨_, hmade.toLeads.trans (hseen.toLeads.trans hfinal.toLeads),
        hmade.timely_step hseen hnone htime hcall⟩

/-- However a send ends, its steps are timely. -/
theorem Sent.timely {payload : Bytes} {result : Except Error Unit}
    (hpause : Unhurried stack delay link.config)
    (h : Sent stack.recorded payload link result final) :
    ∃ made, Leads stack link made final ∧ Timely delay link.config.sendTimeout made := by
  cases h with
  | refused hdrop hqueue =>
      obtain ⟨dropped, hready, hnone⟩ := hdrop.spends
      obtain ⟨request, hcall, hfinal⟩ := spends_of_call hqueue (.send payload)
      have hleads : Leads stack link (dropped ++ [request]) final :=
        (hready.toLeads.trans hfinal.toLeads).of_stack_eq rfl
      refine ⟨_, hleads, .inl ?_⟩
      rw [processed_append, hnone, processed_single hcall]
      rfl
  | @queued ready queued _ _ hdrop hqueue htransmit =>
      obtain ⟨dropped, hready, hnone⟩ := hdrop.spends
      obtain ⟨request, hcall, hqueued⟩ := spends_of_call hqueue (.send payload)
      have hconfig : queued.config = link.config := hqueued.config_eq.trans hready.config_eq
      obtain ⟨made, hfinal, htimely⟩ := htransmit.timely (hconfig ▸ hpause)
      have hleads : Leads stack link (dropped ++ ([request] ++ made)) final :=
        (hready.toLeads.trans (hqueued.toLeads.trans hfinal)).of_stack_eq rfl
      refine ⟨_, hleads, ?_⟩
      unfold Timely at htimely ⊢
      rw [processed_append, processed_append, hnone, processed_single hcall, ← hconfig]
      exact htimely

/-- However a receive ends, its steps are timely. -/
theorem Awaited.timely {result : Except Error (Option Bytes)}
    (hpause : Unhurried stack delay link.config)
    (h : Awaited stack.recorded timeout link.clock link result final) :
    ∃ made, Leads stack link made final ∧ Timely delay timeout made := by
  -- what is known at the poll that ends the wait
  have hpolled : ∀ {last looked : Link (Recorded σ)} {payload},
      Waits stack.recorded timeout link.clock link last →
      await.poll stack.recorded last = (payload, looked) →
      ∃ made seen, Within stack delay link.clock timeout link made last ∧
        Spends stack last seen 0 looked ∧ processed seen = [] := by
    intro last looked payload hwaits hpoll
    obtain ⟨made, hmade⟩ := hwaits.within hpause
    obtain ⟨seen, hspends, hseen⟩ := spends_of_poll hpoll
    exact ⟨made, seen, hmade, hspends, hseen⟩
  cases h with
  | came hwaits hpoll | late hwaits hpoll _ _ =>
      obtain ⟨made, seen, hmade, hseen, hnone⟩ := hpolled hwaits hpoll
      exact ⟨_, hmade.toLeads.trans hseen.toLeads, hmade.timely_look hnone⟩
  | fault hwaits hpoll _ =>
      obtain ⟨made, seen, hmade, hseen, hnone⟩ := hpolled hwaits hpoll
      exact ⟨_, (hmade.toLeads.trans hseen.toLeads).reported, hmade.timely_look hnone⟩
  | broken hwaits hpoll _ htime hstep =>
      obtain ⟨made, seen, hmade, hseen, hnone⟩ := hpolled hwaits hpoll
      obtain ⟨step, hcall, hfinal⟩ := spends_of_call hstep .process
      exact ⟨_, hmade.toLeads.trans (hseen.toLeads.trans hfinal.toLeads),
        hmade.timely_step hseen hnone htime hcall⟩

end Within

/-! ## Counting steps -/

section Counting

variable {delay limit : Duration} {made : List (Entry σ)}

/-- Timely steps are no more than there are pauses within the limit. -/
theorem Timely.length_le (h : Timely delay limit made) (hdelay : 0 < delay.nanoseconds) :
    (processed made).length ≤ limit.nanoseconds ⌈/⌉ delay.nanoseconds := by
  rcases h with hnone | hlast
  · rw [hnone]
    exact Nat.zero_le _
  · refine Nat.le_of_not_lt fun hmore => ?_
    have hbefore := (ceilDiv_le_iff_le_mul hdelay).mp (Nat.le_sub_one_of_lt hmore)
    rw [Nat.mul_comm] at hbefore
    exact absurd hlast (Nat.not_lt_of_le hbefore)

/-- Where no time is allowed, no step is timely. -/
theorem Timely.eq_nil (h : Timely delay .zero made) : processed made = [] :=
  h.resolve_right (Nat.not_lt_zero _)

end Counting

/-! ## Coming back -/

section Returns

variable {delay start limit : Duration} {link looked stepped next : Link σ} {rounds : Nat}

/-- A round that goes on takes its pause out of the time that is left. If there were rounds for all
the pauses before, there are rounds for those to come. -/
theorem rounds_left (hpause : Unhurried stack delay link.config)
    (hconfig : looked.config = link.config)
    (hlooked : link.clock.nanoseconds ≤ looked.clock.nanoseconds)
    (htime : ¬ (looked.clock.since start).reached limit = true) {result : Except Error Unit}
    (hstep : looked.call stack.process = (result, stepped))
    (hleft : start.nanoseconds + limit.nanoseconds ≤
      link.clock.nanoseconds + rounds * delay.nanoseconds) :
    0 < rounds ∧ (stepped.idle stack).config = link.config ∧
      start.nanoseconds + limit.nanoseconds ≤
        (stepped.idle stack).clock.nanoseconds + (rounds - 1) * delay.nanoseconds := by
  obtain ⟨hsame, hstepped⟩ := config_clock_of_call hstep
  rw [hconfig] at hsame
  have hpaused := hpause stepped hsame
  have hahead := lt_of_not_reached (Bool.eq_false_iff.mpr htime)
  refine ⟨?_, (config_idle stack stepped).trans hsame, ?_⟩
  · refine Nat.pos_of_ne_zero fun hnone => ?_
    rw [hnone, Nat.zero_mul] at hleft
    omega
  · cases rounds with
    | zero =>
        rw [Nat.zero_mul] at hleft
        omega
    | succ rounds =>
        rw [Nat.succ_mul] at hleft
        rw [Nat.add_sub_cancel]
        omega

/-- A transmission ends as soon as there are rounds for the pauses in the time that is left. -/
theorem isSome_transmit (size : Nat) (hrounds : 0 < rounds)
    (hpause : Unhurried stack delay link.config)
    (hleft : start.nanoseconds + link.config.sendTimeout.nanoseconds ≤
      link.clock.nanoseconds + (rounds - 1) * delay.nanoseconds) :
    (transmit stack size start rounds link).isSome := by
  -- each round that goes on pauses, and leaves one round and one pause less to come
  induction rounds generalizing link with
  | zero => exact absurd hrounds (Nat.lt_irrefl 0)
  | succ rounds ih =>
      rw [Nat.add_sub_cancel] at hleft
      unfold transmit
      rcases hlook : link.call stack.transmitting with ⟨_ | _, looked⟩
      · rfl
      obtain ⟨hconfig, hlooked⟩ := config_clock_of_call hlook
      dsimp only
      cases hfault : looked.fault.isRaised with
      | true =>
          rw [checkFault_of_raised hfault]
          rfl
      | false =>
          rw [checkFault_of_lowered hfault]
          dsimp only
          rw [hconfig]
          split
          · rfl
          · rename_i htime
            rcases hstep : looked.call stack.process with ⟨error | _, stepped⟩
            · rfl
            obtain ⟨hmore, hidle, hlater⟩ :=
              rounds_left hpause hconfig hlooked htime hstep hleft
            exact ih hmore (hidle ▸ hpause) (hidle ▸ hlater)

/-- So does a wait. -/
theorem isSome_await (hrounds : 0 < rounds) (hpause : Unhurried stack delay link.config)
    (hleft : start.nanoseconds + limit.nanoseconds ≤
      link.clock.nanoseconds + (rounds - 1) * delay.nanoseconds) :
    (await stack limit start rounds link).isSome := by
  induction rounds generalizing link with
  | zero => exact absurd hrounds (Nat.lt_irrefl 0)
  | succ rounds ih =>
      rw [Nat.add_sub_cancel] at hleft
      unfold await
      rcases hpoll : await.poll stack link with ⟨_ | payload, looked⟩
      · obtain ⟨hconfig, hlooked⟩ := config_clock_of_poll hpoll
        dsimp only
        cases hfault : looked.fault.isRaised with
        | true =>
            rw [checkFault_of_raised hfault]
            rfl
        | false =>
            rw [checkFault_of_lowered hfault]
            dsimp only
            split
            · rfl
            · rename_i htime
              rcases hstep : looked.call stack.process with ⟨error | _, stepped⟩
              · rfl
              obtain ⟨hmore, hidle, hlater⟩ :=
                rounds_left hpause hconfig hlooked htime hstep hleft
              exact ih hmore (hidle ▸ hpause) hlater
      · rfl

/-- The rounds that suffice for the pauses in a whole limit. -/
theorem le_of_ceilDiv_lt (clock : Duration) (hdelay : 0 < delay.nanoseconds)
    (h : limit.nanoseconds ⌈/⌉ delay.nanoseconds < rounds) :
    0 < rounds ∧ clock.nanoseconds + limit.nanoseconds ≤
      clock.nanoseconds + (rounds - 1) * delay.nanoseconds := by
  refine ⟨Nat.zero_lt_of_lt h, Nat.add_le_add_left ?_ _⟩
  rw [Nat.mul_comm]
  exact (ceilDiv_le_iff_le_mul hdelay).mp (Nat.le_sub_one_of_lt h)

end Returns

/-! ## Dropping what waits -/

/-- What waits is dropped with one `recv` for each entry at most. -/
theorem exists_discardStale (stock : stack.Stock) {rounds : Nat} {link : Link (Recorded σ)}
    (h : stock.count link.stack.inner < rounds) :
    ∃ log final made, discardStale stack.recorded rounds link = some (log, final) ∧
      Leads stack link made final ∧ (popped made).length ≤ stock.count link.stack.inner := by
  induction rounds generalizing link with
  | zero => exact absurd h (Nat.not_lt_zero _)
  | succ rounds ih =>
      unfold discardStale
      rcases hlook : link.call stack.recorded.available with ⟨_ | _, looked⟩
      · obtain ⟨look, hcall, hlooked⟩ := spends_of_call hlook .available
        refine ⟨[], looked, [look], rfl, hlooked.toLeads, ?_⟩
        rw [popped_single hcall]
        exact Nat.zero_le _
      rcases htake : looked.call stack.recorded.recv with ⟨payload, next⟩
      obtain ⟨look, hcall, hlooked⟩ := spends_of_call hlook .available
      obtain ⟨take, htaken, hnext⟩ := spends_of_call htake .recv
      -- a look adds nothing to what waits, and a `recv` where something waits takes an entry
      have hless : stock.count next.stack.inner < stock.count link.stack.inner := by
        obtain ⟨hready, rfl⟩ := Prod.mk.inj hlook
        obtain ⟨_, rfl⟩ := Prod.mk.inj htake
        exact Nat.lt_of_lt_of_le (stock.count_recv_lt _ _ _ hready) (stock.count_available_le _ _)
      have hone : (popped [take]).length = 1 := by
        rw [popped_single htaken]
        rfl
      have hnone : popped [look] = [] := popped_single hcall
      cases payload with
      | none =>
          refine ⟨[], next, [look] ++ [take], by simp only [htake], ?_, ?_⟩
          · exact hlooked.toLeads.trans hnext.toLeads
          · rw [popped_append, hnone, List.nil_append, hone]
            exact Nat.zero_lt_of_lt hless
      | some payload =>
          obtain ⟨log, final, later, hlater, hfinal, hcount⟩ :=
            ih (Nat.lt_of_lt_of_le hless (Nat.le_of_lt_succ h))
          refine ⟨_, final, [look] ++ ([take] ++ later), by simp only [htake, hlater]; rfl, ?_, ?_⟩
          · exact hlooked.toLeads.trans (hnext.toLeads.trans hfinal)
          · rw [popped_append, popped_append, hnone, List.nil_append, List.length_append, hone]
            omega

/-- A send comes back as soon as there are rounds for the entries that wait and for the pauses in
its time. -/
theorem isSome_send (stock : stack.Stock) {delay : Duration} {rounds : Nat}
    {link : Link (Recorded σ)} (hdelay : 0 < delay.nanoseconds)
    (hpause : Unhurried stack delay link.config) (payload : Bytes)
    (hwaiting : stock.count link.stack.inner < rounds)
    (hpauses : link.config.sendTimeout.nanoseconds ⌈/⌉ delay.nanoseconds < rounds) :
    (send stack.recorded rounds link payload).isSome := by
  let lowered : Link (Recorded σ) := { link with fault := link.fault.clear }
  have hlowered : stock.count lowered.stack.inner < rounds := hwaiting
  obtain ⟨log, ready, made, hdrop, _⟩ := exists_discardStale stock hlowered
  obtain ⟨_, hready, _⟩ := (discarded_of_discardStale hdrop).spends
  unfold send
  rw [hdrop]
  dsimp only
  rcases hqueue : ready.call (stack.recorded.send payload) with ⟨error | _, queued⟩
  · rfl
  obtain ⟨hsame, _⟩ := config_clock_of_call hqueue
  have hconfig : queued.config = link.config := hsame.trans hready.config_eq
  obtain ⟨hrounds, hleft⟩ := le_of_ceilDiv_lt queued.clock hdelay hpauses
  rw [← hconfig] at hpause hleft
  obtain ⟨outcome, houtcome⟩ := Option.isSome_iff_exists.mp
    (isSome_transmit payload.length hrounds hpause.recorded hleft)
  simp only [houtcome, Option.isSome_some]

/-- The waits of a link are bounded, whatever the stack does. If every pause takes `delay` at
least, one send makes no more steps than there are such pauses in its timeout, and neither does one
receive; without a timeout neither makes any step at all. If the entries that wait can be counted,
they are dropped with no more calls than there are entries. So both operations come back, whether
the calls that they make are kept or not. -/
theorem waits_are_bounded (stack : Stack σ) (link : Link (Recorded σ)) :
    (∀ delay : Duration, 0 < delay.nanoseconds → Unhurried stack delay link.config →
      (∀ rounds payload reply, send stack.recorded rounds link payload = some reply →
        ∃ made, reply.state.stack.entries = link.stack.entries ++ made ∧
          (processed made).length ≤
            link.config.sendTimeout.nanoseconds ⌈/⌉ delay.nanoseconds) ∧
      (∀ rounds timeout reply, receive stack.recorded rounds link timeout = some reply →
        ∃ made, reply.state.stack.entries = link.stack.entries ++ made ∧
          (processed made).length ≤ timeout.nanoseconds ⌈/⌉ delay.nanoseconds) ∧
      (∀ rounds (timeout : Duration), timeout.nanoseconds ⌈/⌉ delay.nanoseconds < rounds →
        (receive stack.recorded rounds link timeout).isSome ∧
          (receive stack rounds link.unwatched timeout).isSome) ∧
      ∀ stock : stack.Stock, ∀ rounds payload, stock.count link.stack.inner < rounds →
        link.config.sendTimeout.nanoseconds ⌈/⌉ delay.nanoseconds < rounds →
          (send stack.recorded rounds link payload).isSome ∧
            (send stack rounds link.unwatched payload).isSome) ∧
    (∀ stock : stack.Stock, ∀ rounds, stock.count link.stack.inner < rounds →
      ∃ log final made, discardStale stack.recorded rounds link = some (log, final) ∧
        final.stack.entries = link.stack.entries ++ made ∧
        (popped made).length ≤ stock.count link.stack.inner) ∧
    (∀ rounds payload reply, link.config.sendTimeout = .zero →
      send stack.recorded rounds link payload = some reply →
        ∃ made, reply.state.stack.entries = link.stack.entries ++ made ∧ processed made = []) ∧
    ∀ rounds reply, receive stack.recorded rounds link .zero = some reply →
      ∃ made, reply.state.stack.entries = link.stack.entries ++ made ∧ processed made = [] := by
  refine ⟨fun delay hdelay hpause => ⟨?_, ?_, ?_, ?_⟩, ?_, ?_, ?_⟩
  · intro rounds payload reply hsend
    obtain ⟨made, hleads, htimely⟩ := (sent_of_send hsend).timely hpause
    exact ⟨made, hleads.entries_eq, htimely.length_le hdelay⟩
  · intro rounds timeout reply hreceive
    obtain ⟨made, hleads, htimely⟩ := (awaited_of_await hreceive).timely hpause
    exact ⟨made, hleads.entries_eq, htimely.length_le hdelay⟩
  · intro rounds timeout hpauses
    obtain ⟨hrounds, hleft⟩ := le_of_ceilDiv_lt link.clock hdelay hpauses
    have hreturns : (receive stack.recorded rounds link timeout).isSome :=
      isSome_await hrounds hpause.recorded hleft
    refine ⟨hreturns, ?_⟩
    rw [receive_unwatched, Option.isSome_map]
    exact hreturns
  · intro stock rounds payload hwaiting hpauses
    have hreturns := isSome_send stock hdelay hpause payload hwaiting hpauses
    refine ⟨hreturns, ?_⟩
    rw [send_unwatched, Option.isSome_map]
    exact hreturns
  · intro stock rounds hwaiting
    obtain ⟨log, final, made, hdrop, hleads, hcount⟩ := exists_discardStale stock hwaiting
    exact ⟨log, final, made, hdrop, hleads.entries_eq, hcount⟩
  · intro rounds payload reply hzero hsend
    obtain ⟨made, hleads, htimely⟩ := (sent_of_send hsend).timely (unhurried_zero stack link.config)
    rw [hzero] at htimely
    exact ⟨made, hleads.entries_eq, htimely.eq_nil⟩
  · intro rounds reply hreceive
    obtain ⟨made, hleads, htimely⟩ :=
      (awaited_of_await hreceive).timely (unhurried_zero stack link.config)
    exact ⟨made, hleads.entries_eq, htimely.eq_nil⟩

open Simulation

/-- A rig that never gets a payload out, with two entries waiting, one of them empty, behind a link
that pauses for three milliseconds and gives up after ten. -/
def jammed : Link Rig where
  stack := { Rig.quiet 1000 with inbox := [some [1], none] }
  fault := .lowered
  config := { Config.standard with
    sendTimeout := .ofMilliseconds 10
    pollInterval := some (.ofMilliseconds 3) }
  clock := .zero

/-- Five rounds suffice for a send and for a receive. Neither makes more than four steps. -/
theorem waits_are_bounded_jammed :
    (∃ reply made, send Rig.stack.recorded 5 (jammed.watched []) [7] = some reply ∧
      reply.state.stack.entries = made ∧ (processed made).length ≤ 4) ∧
    (∃ reply made, receive Rig.stack.recorded 5 (jammed.watched []) (.ofMilliseconds 10) =
        some reply ∧ reply.state.stack.entries = made ∧ (processed made).length ≤ 4) ∧
    (∃ log final made, discardStale Rig.stack.recorded 3 (jammed.watched []) = some (log, final) ∧
      final.stack.entries = made ∧ (popped made).length ≤ 2) ∧
    ∃ reply made, receive Rig.stack.recorded 5 (jammed.watched []) .zero = some reply ∧
      reply.state.stack.entries = made ∧ processed made = [] := by
  obtain ⟨hbounded, hdropped, _, hidle⟩ := waits_are_bounded Rig.stack (jammed.watched [])
  have hpause : Unhurried Rig.stack (.ofMilliseconds 3) jammed.config := by
    intro link hconfig
    unfold idle
    rw [hconfig]
    exact Nat.le_refl _
  have hpauses : (Duration.ofMilliseconds 10).nanoseconds ⌈/⌉
      (Duration.ofMilliseconds 3).nanoseconds = 4 := by
    rw [Nat.ceilDiv_eq_add_pred_div]
    rfl
  obtain ⟨hsends, hreceives, hreceived, hsent⟩ := hbounded (.ofMilliseconds 3) (by decide) hpause
  refine ⟨?_, ?_, ?_, ?_⟩
  · obtain ⟨reply, hreply⟩ := Option.isSome_iff_exists.mp
      (hsent Rig.queue.stock 5 [7] (by decide) (hpauses.trans_lt (by decide))).1
    obtain ⟨made, hmade, hlength⟩ := hsends 5 [7] reply hreply
    exact ⟨reply, made, hreply, hmade, hlength.trans_eq hpauses⟩
  · obtain ⟨reply, hreply⟩ := Option.isSome_iff_exists.mp
      (hreceived 5 (.ofMilliseconds 10) (hpauses.trans_lt (by decide))).1
    obtain ⟨made, hmade, hlength⟩ := hreceives 5 (.ofMilliseconds 10) reply hreply
    exact ⟨reply, made, hreply, hmade, hlength.trans_eq hpauses⟩
  · obtain ⟨log, final, made, hdrop, hmade, hlength⟩ := hdropped Rig.queue.stock 3 (by decide)
    exact ⟨log, final, made, hdrop, hmade, hlength⟩
  · obtain ⟨reply, hreply⟩ := Option.isSome_iff_exists.mp
      (hreceived 5 .zero (by rw [Nat.ceilDiv_eq_add_pred_div]; decide)).1
    obtain ⟨made, hmade, hnone⟩ := hidle 5 reply hreply
    exact ⟨reply, made, hreply, hmade, hnone⟩

end Link

end Reflash
