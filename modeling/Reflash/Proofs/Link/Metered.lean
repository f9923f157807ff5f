import Reflash.Proofs.Link.History
import Reflash.Simulation.Rig

/-!
# Stacks that take their steps

`Stack.Metered` says of a stack that the process steps that a frame takes depend on its length
alone, and that nothing goes wrong with it but one thing, which happens at most once: at a certain
step the flag is raised and the frame on its way is dropped. What becomes of a send can then be
counted. `exists_sent` says that every send of such a stack ends, and how: the fault falls within the
steps of the frame, which is lost, or the frame is completed, unless time is up before.
-/

namespace Reflash

variable {σ : Type} {stack : Stack σ} {steps : Nat → Nat} {reason : String}

namespace Stack

/-- What there is to count on a stack. -/
structure Meter where
  /-- The steps that the frame on its way still takes. -/
  pending : Nat
  /-- The frame handed over last. -/
  current : Bytes
  /-- The steps up to the fault and with it, as long as it is still to come. -/
  fuse : Option Nat
  /-- The frames that are out, in order. -/
  completed : List Bytes

namespace Meter

/-- A frame is handed over. -/
def queue (meter : Meter) (frame : Bytes) (pending : Nat) : Meter :=
  { meter with pending, current := frame }

/-- The frame on its way is completed, without the fault. -/
def complete (meter : Meter) : Meter :=
  { meter with
    pending := 0
    fuse := meter.fuse.map (· - meter.pending)
    completed := meter.completed ++ [meter.current] }

/-- The fault falls, and the frame on its way is dropped. -/
def strike (meter : Meter) : Meter :=
  { meter with pending := 0, fuse := none }

/-- One step is made. -/
def step (meter : Meter) : Meter :=
  if meter.fuse = some 1 then meter.strike
  else {
    pending := meter.pending - 1
    current := meter.current
    fuse := meter.fuse.map (· - 1)
    completed :=
      if meter.pending = 1 then meter.completed ++ [meter.current] else meter.completed }

/-- The reasons for which the next step raises the flag. -/
def alarm (meter : Meter) (reason : String) : List String :=
  if meter.fuse = some 1 then [reason] else []

/-- What is out before a step is out after it. -/
theorem completed_step (meter : Meter) : meter.completed <+: meter.step.completed := by
  unfold step
  split
  · exact List.prefix_rfl
  · dsimp only
    split
    · exact List.prefix_append _ _
    · exact List.prefix_rfl

/-- Unless the fault falls, a step leaves one step less for the frame on its way. -/
theorem pending_step {meter : Meter} (hfuse : meter.fuse ≠ some 1) :
    meter.step.pending = meter.pending - 1 := by
  unfold step
  rw [if_neg hfuse]

/-- Unless the fault falls, a step brings it nearer by one. -/
theorem fuse_step {meter : Meter} (hfuse : meter.fuse ≠ some 1) :
    meter.step.fuse = meter.fuse.map (· - 1) := by
  unfold step
  rw [if_neg hfuse]

/-- Until the fault falls, it lies ahead. -/
theorem pos_of_mem_fuse_step {meter : Meter} (hfuse : meter.fuse ≠ some 1)
    (hpos : ∀ fuse ∈ meter.fuse, 0 < fuse) : ∀ fuse ∈ meter.step.fuse, 0 < fuse := by
  intro fuse hmem
  rw [fuse_step hfuse] at hmem
  obtain ⟨before, hbefore, rfl⟩ := Option.map_eq_some_iff.mp hmem
  have hahead := hpos before hbefore
  have hne : before ≠ 1 := fun heq => hfuse (heq ▸ hbefore)
  omega

/-- The last step of a frame completes it, if the fault does not fall in it. -/
theorem step_eq_complete {meter : Meter} (hfuse : meter.fuse ≠ some 1)
    (hpending : meter.pending = 1) : meter.step = meter.complete := by
  unfold step complete
  rw [if_neg hfuse, if_pos hpending, hpending]

/-- A step more in front makes no difference to what a frame comes to. -/
theorem complete_step {meter : Meter} (hfuse : meter.fuse ≠ some 1) (hpending : 1 < meter.pending) :
    meter.step.complete = meter.complete := by
  have hmap : (meter.fuse.map (· - 1)).map (· - (meter.pending - 1)) =
      meter.fuse.map (· - meter.pending) := by
    rw [Option.map_map]
    congr 1
    funext fuse
    show fuse - 1 - (meter.pending - 1) = fuse - meter.pending
    omega
  unfold step complete
  simp only [if_neg hfuse, if_neg (Nat.ne_of_gt hpending), hmap]

/-- A step in between does not change what the fault leaves behind. -/
theorem strike_step {meter : Meter} (hfuse : meter.fuse ≠ some 1) (hpending : 1 < meter.pending) :
    meter.step.strike = meter.strike := by
  unfold step strike
  simp only [if_neg hfuse, if_neg (Nat.ne_of_gt hpending)]

/-- How it goes with a frame that is on its way. -/
inductive Fate (meter : Meter) (reason : String) : Except Error Unit → Meter → Prop where
  /-- Time is up. -/
  | late {lapse after} : Fate meter reason (.error (.timeout lapse)) after
  /-- The fault, if there is one to come, falls later. -/
  | out : (∀ fuse ∈ meter.fuse, meter.pending < fuse) → Fate meter reason (.ok ()) meter.complete
  /-- The fault falls within the steps of the frame. -/
  | struck {fuse} : meter.fuse = some fuse → fuse ≤ meter.pending →
      Fate meter reason (.error (.transportFault reason)) meter.strike

/-- A step more in front makes no difference to how it goes. -/
theorem Fate.of_step {meter after : Meter} {result : Except Error Unit}
    (hfuse : meter.fuse ≠ some 1) (hpending : 1 < meter.pending)
    (h : meter.step.Fate reason result after) : meter.Fate reason result after := by
  cases h with
  | late => exact .late
  | out hlater =>
      rw [complete_step hfuse hpending]
      refine .out fun fuse hmem => ?_
      have hless : fuse - 1 ∈ meter.step.fuse := by
        rw [fuse_step hfuse]
        exact Option.mem_map_of_mem _ hmem
      have hbelow := hlater _ hless
      rw [pending_step hfuse] at hbelow
      omega
  | struck hstruck hwithin =>
      rw [fuse_step hfuse, Option.map_eq_some_iff] at hstruck
      obtain ⟨fuse, hmem, rfl⟩ := hstruck
      rw [pending_step hfuse] at hwithin
      rw [strike_step hfuse hpending]
      exact .struck hmem (by omega)

end Meter

/-- A stack on which a frame takes so many steps, with at most one fault, for the given reason. -/
structure Metered (stack : Stack σ) (steps : Nat → Nat) (reason : String) where
  /-- The states of which this is true. -/
  valid : σ → Prop
  /-- What there is to count. -/
  meter : σ → Meter
  /-- A bound for the payloads that wait to be taken. -/
  waiting : σ → Nat
  steps_pos : ∀ length, 0 < steps length
  valid_after : ∀ entry, Makes stack entry → valid entry.before → valid entry.after
  /-- A frame is taken, if no other is on its way. -/
  send_queues : ∀ frame around state, valid state → (meter state).pending = 0 →
    (stack.send frame around state).value = .ok () ∧
      (stack.send frame around state).raised = [] ∧
      meter (stack.send frame around state).state =
        (meter state).queue frame (steps frame.length)
  /-- What is out stays out, also when frames are handed over too early. -/
  send_keeps : ∀ frame around state, valid state →
    (meter state).completed <+: (meter (stack.send frame around state).state).completed
  process_steps : ∀ around state, valid state →
    (stack.process around state).value = .ok () ∧
      (stack.process around state).raised = (meter state).alarm reason ∧
      meter (stack.process around state).state = (meter state).step
  transmitting_tells : ∀ around state, valid state →
    (stack.transmitting around state).value = decide ((meter state).pending ≠ 0) ∧
      (stack.transmitting around state).raised = [] ∧
      meter (stack.transmitting around state).state = meter state
  available_keeps : ∀ around state, valid state →
    (stack.available around state).raised = [] ∧
      meter (stack.available around state).state = meter state ∧
      waiting (stack.available around state).state = waiting state
  recv_takes : ∀ around state, valid state →
    (stack.recv around state).raised = [] ∧
      meter (stack.recv around state).state = meter state ∧
      ((stack.recv around state).value ≠ none →
        waiting (stack.recv around state).state < waiting state)
  sleepTime_keeps : ∀ around state, valid state →
    (stack.sleepTime around state).raised = [] ∧
      meter (stack.sleepTime around state).state = meter state

namespace Metered

variable (metered : stack.Metered steps reason)

/-- What is out stays out. -/
theorem completed_of_makes {entry : Entry σ} (h : Makes stack entry)
    (hvalid : metered.valid entry.before) :
    (metered.meter entry.before).completed <+: (metered.meter entry.after).completed := by
  have hkept : ∀ {after : σ}, metered.meter after = metered.meter entry.before →
      (metered.meter entry.before).completed <+: (metered.meter after).completed :=
    fun hafter => hafter ▸ List.prefix_rfl
  cases h with
  | send frame around state => exact metered.send_keeps frame around state hvalid
  | transmitting around state => exact hkept (metered.transmitting_tells around state hvalid).2.2
  | process around state =>
      have hstep := (metered.process_steps around state hvalid).2.2
      have hcompleted := (metered.meter state).completed_step
      rw [← hstep] at hcompleted
      exact hcompleted
  | available around state => exact hkept (metered.available_keeps around state hvalid).2.1
  | recv around state => exact hkept (metered.recv_takes around state hvalid).2.1
  | sleepTime around state => exact hkept (metered.sleepTime_keeps around state hvalid).2

/-- No call takes back what is out. -/
theorem completed_of_calls {start final : σ} {made : List (Entry σ)}
    (h : Calls stack start made final) (hvalid : metered.valid start) :
    (metered.meter start).completed <+: (metered.meter final).completed := by
  induction h with
  | nil => exact List.prefix_rfl
  | cons hentry _ ih =>
      exact (metered.completed_of_makes hentry hvalid).trans
        (ih (metered.valid_after _ hentry hvalid))

/-- Keeping the calls beside a stack does not touch what there is to count. -/
def recorded : stack.recorded.Metered steps reason where
  valid state := metered.valid state.inner
  meter state := metered.meter state.inner
  waiting state := metered.waiting state.inner
  steps_pos := metered.steps_pos
  valid_after _ hentry hvalid := by
    cases hentry with
    | send frame around state => exact metered.valid_after _ (.send frame around state.inner) hvalid
    | transmitting around state =>
        exact metered.valid_after _ (.transmitting around state.inner) hvalid
    | process around state => exact metered.valid_after _ (.process around state.inner) hvalid
    | available around state => exact metered.valid_after _ (.available around state.inner) hvalid
    | recv around state => exact metered.valid_after _ (.recv around state.inner) hvalid
    | sleepTime around state => exact metered.valid_after _ (.sleepTime around state.inner) hvalid
  send_queues frame around state := metered.send_queues frame around state.inner
  send_keeps frame around state := metered.send_keeps frame around state.inner
  process_steps around state := metered.process_steps around state.inner
  transmitting_tells around state := metered.transmitting_tells around state.inner
  available_keeps around state := metered.available_keeps around state.inner
  recv_takes around state := metered.recv_takes around state.inner
  sleepTime_keeps around state := metered.sleepTime_keeps around state.inner

/-- The stack of the link is one of which the laws are true, and this is what there is to count. -/
structure Shows (link : Link σ) (meter : Meter) : Prop where
  valid : metered.valid link.stack
  meter_eq : metered.meter link.stack = meter

end Metered

end Stack

namespace Link

open Stack

variable {metered : stack.Metered steps reason} {link : Link σ} {meter : Meter}

/-! ## Single calls -/

section Calls

variable {next : Link σ}

/-- A call that raises nothing leaves the flag as it is. -/
theorem fault_call {α : Type} {act : Surroundings → σ → Outcome σ α}
    (hraised : (act { now := link.clock, fault := link.fault } link.stack).raised = []) :
    (link.call act).2.fault = link.fault := by
  show link.fault.raiseAll _ = link.fault
  rw [hraised]
  rfl

/-- The link with another time, the flag and the settings being of no account. -/
theorem shows_of_stack_eq (h : metered.Shows link meter) (hstack : next.stack = link.stack) :
    metered.Shows next meter :=
  ⟨hstack ▸ h.valid, hstack ▸ h.meter_eq⟩

/-- A frame that is handed over to a free line is taken and counted. -/
theorem shows_of_send (h : metered.Shows link meter) (hfree : meter.pending = 0) {frame : Bytes}
    {result : Except Error Unit} (hcall : link.call (stack.send frame) = (result, next)) :
    result = .ok () ∧ metered.Shows next (meter.queue frame (steps frame.length)) ∧
      next.fault = link.fault := by
  obtain ⟨rfl, rfl⟩ := Prod.mk.inj hcall
  rw [← h.meter_eq] at hfree
  obtain ⟨hvalue, hraised, hmeter⟩ := metered.send_queues frame _ link.stack h.valid hfree
  rw [h.meter_eq] at hmeter
  exact ⟨hvalue, ⟨metered.valid_after _ (.send frame _ link.stack) h.valid, hmeter⟩,
    fault_call hraised⟩

/-- A step succeeds and is counted, and raises the flag if the fault falls in it. -/
theorem shows_of_process (h : metered.Shows link meter) {result : Except Error Unit}
    (hcall : link.call stack.process = (result, next)) :
    result = .ok () ∧ metered.Shows next meter.step ∧
      next.fault = link.fault.raiseAll (meter.alarm reason) := by
  obtain ⟨rfl, rfl⟩ := Prod.mk.inj hcall
  obtain ⟨hvalue, hraised, hmeter⟩ := metered.process_steps _ link.stack h.valid
  rw [h.meter_eq] at hraised hmeter
  refine ⟨hvalue, ⟨metered.valid_after _ (.process _ link.stack) h.valid, hmeter⟩, ?_⟩
  show link.fault.raiseAll _ = _
  rw [hraised]

/-- A look tells whether steps are left, and changes nothing. -/
theorem shows_of_transmitting (h : metered.Shows link meter) {answer : Bool}
    (hcall : link.call stack.transmitting = (answer, next)) :
    answer = decide (meter.pending ≠ 0) ∧ metered.Shows next meter ∧ next.fault = link.fault := by
  obtain ⟨rfl, rfl⟩ := Prod.mk.inj hcall
  obtain ⟨hvalue, hraised, hmeter⟩ := metered.transmitting_tells _ link.stack h.valid
  rw [h.meter_eq] at hvalue hmeter
  exact ⟨hvalue, ⟨metered.valid_after _ (.transmitting _ link.stack) h.valid, hmeter⟩,
    fault_call hraised⟩

/-- Asking for payloads changes nothing that is counted. -/
theorem shows_of_available (h : metered.Shows link meter) {answer : Bool}
    (hcall : link.call stack.available = (answer, next)) :
    metered.Shows next meter ∧ next.fault = link.fault ∧
      metered.waiting next.stack = metered.waiting link.stack := by
  obtain ⟨rfl, rfl⟩ := Prod.mk.inj hcall
  obtain ⟨hraised, hmeter, hwaiting⟩ := metered.available_keeps _ link.stack h.valid
  rw [h.meter_eq] at hmeter
  exact ⟨⟨metered.valid_after _ (.available _ link.stack) h.valid, hmeter⟩, fault_call hraised,
    hwaiting⟩

/-- Taking a payload leaves fewer of them and changes nothing else that is counted. -/
theorem shows_of_recv (h : metered.Shows link meter) {payload : Option Bytes}
    (hcall : link.call stack.recv = (payload, next)) :
    metered.Shows next meter ∧ next.fault = link.fault ∧
      (payload ≠ none → metered.waiting next.stack < metered.waiting link.stack) := by
  obtain ⟨rfl, rfl⟩ := Prod.mk.inj hcall
  obtain ⟨hraised, hmeter, hwaiting⟩ := metered.recv_takes _ link.stack h.valid
  rw [h.meter_eq] at hmeter
  exact ⟨⟨metered.valid_after _ (.recv _ link.stack) h.valid, hmeter⟩, fault_call hraised,
    hwaiting⟩

/-- A pause changes nothing that is counted. -/
theorem shows_idle (h : metered.Shows link meter) :
    metered.Shows (link.idle stack) meter ∧ (link.idle stack).fault = link.fault := by
  unfold idle
  cases link.config.pollInterval with
  | some delay => exact ⟨shows_of_stack_eq h rfl, rfl⟩
  | none =>
      obtain ⟨hraised, hmeter⟩ := metered.sleepTime_keeps { now := link.clock, fault := link.fault }
        link.stack h.valid
      rw [h.meter_eq] at hmeter
      exact ⟨⟨metered.valid_after _ (.sleepTime _ link.stack) h.valid, hmeter⟩, fault_call hraised⟩

end Calls

/-! ## Sends -/

/-- What waits is dropped, and nothing else happens. -/
theorem exists_discarded (h : metered.Shows link meter) :
    ∃ final, Discarded stack link final ∧ metered.Shows final meter ∧ final.fault = link.fault := by
  generalize hbound : metered.waiting link.stack = bound
  induction bound using Nat.strongRecOn generalizing link with
  | ind bound ih =>
      rcases hlook : link.call stack.available with ⟨_ | _, looked⟩
      · obtain ⟨hshows, hfault, _⟩ := shows_of_available h hlook
        exact ⟨looked, .nothing hlook, hshows, hfault⟩
      · obtain ⟨hlooked, hfault, hkept⟩ := shows_of_available h hlook
        rcases htake : looked.call stack.recv with ⟨_ | payload, next⟩
        · obtain ⟨hshows, hsame, _⟩ := shows_of_recv hlooked htake
          exact ⟨next, .empty hlook htake, hshows, hsame.trans hfault⟩
        · obtain ⟨hshows, hsame, hless⟩ := shows_of_recv hlooked htake
          have hbelow : metered.waiting next.stack < bound := by
            rw [← hbound, ← hkept]
            exact hless (Option.some_ne_none payload)
          obtain ⟨final, hfinal, hend, hlast⟩ := ih _ hbelow hshows rfl
          exact ⟨final, .dropped hlook htake hfinal, hend, hlast.trans (hsame.trans hfault)⟩

/-- A raised flag ends a transmission at the next look. -/
theorem transmitted_of_raised {size : Nat} {start : Duration} (h : metered.Shows link meter)
    (hfault : link.fault = .raised (some reason)) :
    ∃ final, Transmitted stack size start link (.error (.transportFault reason)) final ∧
      metered.Shows final meter := by
  rcases hlook : link.call stack.transmitting with ⟨answer, looked⟩
  obtain ⟨_, hshows, hsame⟩ := shows_of_transmitting h hlook
  rw [hfault] at hsame
  have hraised : looked.fault.isRaised = true := by
    rw [hsame]
    rfl
  have herror : looked.faultError = .transportFault reason := by
    unfold faultError
    rw [hsame]
    rfl
  exact ⟨looked.reported, herror ▸ .fault (.here link) hlook hraised, shows_of_stack_eq hshows rfl⟩

/-- So does the end of the frame, as long as the flag is down. -/
theorem transmitted_of_free {size : Nat} {start : Duration} (h : metered.Shows link meter)
    (hfault : link.fault = .lowered) (hfree : meter.pending = 0) :
    ∃ final, Transmitted stack size start link (.ok ()) final ∧ metered.Shows final meter := by
  rcases hlook : link.call stack.transmitting with ⟨answer, looked⟩
  obtain ⟨hanswer, hshows, hsame⟩ := shows_of_transmitting h hlook
  have hlowered : looked.fault.isRaised = false := by
    rw [hsame, hfault]
    rfl
  rw [hfree] at hanswer
  subst hanswer
  exact ⟨looked, .out (.here link) hlook hlowered, hshows⟩

/-- A round with a frame on its way ends at the time, or makes one step. -/
theorem late_or_stepped {size : Nat} {start : Duration} (h : metered.Shows link meter)
    (hfault : link.fault = .lowered) (hpending : 0 < meter.pending) :
    (∃ lapse final, Transmitted stack size start link (.error (.timeout lapse)) final ∧
      metered.Shows final meter) ∨
    ∃ next, (∀ {last}, Pumps stack start next last → Pumps stack start link last) ∧
      metered.Shows next meter.step ∧
      next.fault = Fault.Flag.lowered.raiseAll (meter.alarm reason) := by
  rcases hlook : link.call stack.transmitting with ⟨answer, looked⟩
  obtain ⟨hanswer, hlooked, hsame⟩ := shows_of_transmitting h hlook
  have hbusy : answer = true := by
    rw [hanswer]
    exact decide_eq_true (Nat.ne_of_gt hpending)
  subst hbusy
  have hlowered : looked.fault.isRaised = false := by
    rw [hsame, hfault]
    rfl
  cases htime : (looked.clock.since start).reached looked.config.sendTimeout with
  | true => exact .inl ⟨_, looked, .late (.here link) hlook hlowered htime, hlooked⟩
  | false =>
      rcases hstep : looked.call stack.process with ⟨result, stepped⟩
      obtain ⟨rfl, hstepped, hraised⟩ := shows_of_process hlooked hstep
      obtain ⟨hpaused, hkept⟩ := shows_idle hstepped
      rw [hraised, hsame, hfault] at hkept
      exact .inr ⟨stepped.idle stack, .round hlook hlowered htime hstep, hpaused, hkept⟩

/-- A frame on its way comes to one of its ends. -/
theorem exists_transmitted {size : Nat} {start : Duration} (h : metered.Shows link meter)
    (hfault : link.fault = .lowered) (hfuse : ∀ fuse ∈ meter.fuse, 0 < fuse)
    (hpending : 0 < meter.pending) :
    ∃ result final after, Transmitted stack size start link result final ∧
      metered.Shows final after ∧ meter.Fate reason result after := by
  -- by induction on the steps that are left, one of which each round makes
  generalize hbound : meter.pending = bound at hpending
  induction bound using Nat.strongRecOn generalizing link meter with
  | ind bound ih =>
      subst hbound
      rcases late_or_stepped h hfault hpending with
        ⟨lapse, final, hlate, hshows⟩ | ⟨next, hround, hnext, hflag⟩
      · exact ⟨_, final, meter, hlate, hshows, .late⟩
      by_cases hnow : meter.fuse = some 1
      · -- the fault falls now, and the next look finds it
        have hstrike : meter.step = meter.strike := if_pos hnow
        rw [Meter.alarm, if_pos hnow] at hflag
        rw [hstrike] at hnext
        obtain ⟨final, hend, hshows⟩ := transmitted_of_raised hnext hflag
        exact ⟨_, final, _, hend.after_round hround, hshows, .struck hnow hpending⟩
      rw [Meter.alarm, if_neg hnow] at hflag
      rcases Nat.eq_or_lt_of_le hpending with hlast | hmore
      · -- that was the last step
        rw [Meter.step_eq_complete hnow hlast.symm] at hnext
        obtain ⟨final, hend, hshows⟩ := transmitted_of_free hnext hflag rfl
        refine ⟨_, final, _, hend.after_round hround, hshows, .out fun fuse hmem => ?_⟩
        have hpos := hfuse fuse hmem
        have hne : fuse ≠ 1 := fun heq => hnow (heq ▸ hmem)
        omega
      · have hstep := Meter.pending_step hnow
        obtain ⟨result, final, after, hend, hshows, hfate⟩ :=
          ih meter.step.pending (by omega) hnext hflag (Meter.pos_of_mem_fuse_step hnow hfuse) rfl
            (by omega)
        exact ⟨result, final, after, hend.after_round hround, hshows, hfate.of_step hnow hmore⟩

/-- A frame that is handed over while no other is on its way comes to one of its ends. -/
theorem exists_sent (h : metered.Shows link meter) (hfree : meter.pending = 0)
    (hfuse : ∀ fuse ∈ meter.fuse, 0 < fuse) (frame : Bytes) :
    ∃ result final after, Sent stack frame link result final ∧ metered.Shows final after ∧
      (meter.queue frame (steps frame.length)).Fate reason result after := by
  have hlowered : metered.Shows { link with fault := .lowered } meter := shows_of_stack_eq h rfl
  obtain ⟨ready, hdropped, hready, hdown⟩ := exists_discarded hlowered
  rcases hqueue : ready.call (stack.send frame) with ⟨accepted, queued⟩
  obtain ⟨rfl, hqueued, hsame⟩ := shows_of_send hready hfree hqueue
  obtain ⟨result, final, after, hend, hshows, hfate⟩ := exists_transmitted hqueued
    (hsame.trans hdown) hfuse (metered.steps_pos frame.length)
  exact ⟨result, final, after, .queued hdropped hqueue hend, hshows, hfate⟩

end Link

/-! ## A rig with one fault -/

namespace Simulation.Rig

/-- At step `number` the flag is raised and the frame on its way is dropped. -/
def faultAt (number : Nat) (reason : String) : Incident where
  atProcess := some number
  atSend := none
  raise := some reason
  deliver := none
  delay := .zero
  drop := true
  error := none

/-- The rig sends frames in segments of the given size, and nothing is laid down but one fault. -/
structure Faulty (segment number : Nat) (reason : String) (rig : Rig) : Prop where
  segment_pos : 0 < segment
  segment_eq : rig.segment = segment
  incidents_eq : rig.incidents = [faultAt number reason]

section Faulty

variable {segment number : Nat} {rig : Rig}

/-- Only the segments and the incidents of a rig decide whether it is of this kind. -/
theorem Faulty.of_eq {other : Rig} (h : Faulty segment number reason rig)
    (hsegment : other.segment = rig.segment) (hincidents : other.incidents = rig.incidents) :
    Faulty segment number reason other :=
  ⟨h.segment_pos, hsegment.trans h.segment_eq, hincidents.trans h.incidents_eq⟩

/-- A send lays down the frame and its steps. -/
theorem Faulty.send_eq (h : Faulty segment number reason rig) (frame : Bytes) :
    rig.send frame = {
      value := .ok ()
      state := { rig with
        sends := rig.sends + 1
        pending := max 1 ((frame.length + (segment - 1)) / segment)
        current := frame } } := by
  have hsteps : rig.stepsFor frame = max 1 ((frame.length + (segment - 1)) / segment) := by
    unfold stepsFor
    rw [h.segment_eq, if_neg (Nat.ne_of_gt h.segment_pos)]
  have hnone : rig.incidents.filter (·.atSend = some (rig.sends + 1)) = [] := by
    rw [h.incidents_eq]
    rfl
  have hpos : max 1 ((frame.length + (segment - 1)) / segment) ≠ 0 := by omega
  unfold send
  simp only [hnone, hsteps, happenAll, if_neg hpos]

/-- In the step of the fault, the flag is raised and the frame is dropped. -/
theorem Faulty.process_of_eq (h : Faulty segment number reason rig)
    (hnow : number = rig.processed + 1) :
    rig.process = {
      value := .ok ()
      state := { rig with processed := rig.processed + 1, inbox := rig.inbox ++ [], pending := 0 }
      raised := [reason]
      elapsed := Duration.zero.add .zero } := by
  have hone : rig.incidents.filter (·.atProcess = some (rig.processed + 1)) =
      [faultAt number reason] := by
    rw [h.incidents_eq, ← hnow]
    exact List.filter_eq_self.mpr (by simp [faultAt])
  unfold process
  simp only [hone]
  rfl

/-- In any other step nothing happens but progress. -/
theorem Faulty.process_of_ne (h : Faulty segment number reason rig)
    (hother : number ≠ rig.processed + 1) :
    rig.process = {
      value := .ok ()
      state :=
        if rig.pending = 1 then
          complete { rig with processed := rig.processed + 1, pending := 0 }
        else { rig with processed := rig.processed + 1, pending := rig.pending - 1 } } := by
  have hnone : rig.incidents.filter (·.atProcess = some (rig.processed + 1)) = [] := by
    rw [h.incidents_eq]
    exact List.filter_eq_nil_iff.mpr (by simpa [faultAt] using hother)
  unfold process
  simp only [hnone, happenAll]
  rcases rig.pending with _ | _ | pending <;> rfl

/-- Nothing that is laid down changes. -/
theorem Faulty.process (h : Faulty segment number reason rig) :
    Faulty segment number reason rig.process.state := by
  by_cases hnow : number = rig.processed + 1
  · rw [h.process_of_eq hnow]
    exact h.of_eq rfl rfl
  · rw [h.process_of_ne hnow]
    dsimp only
    split
    · exact h.of_eq rfl rfl
    · exact h.of_eq rfl rfl

/-- What there is to count on a rig with a fault at step `number`. -/
def meter (number : Nat) (rig : Rig) : Stack.Meter where
  pending := rig.pending
  current := rig.current
  fuse := if rig.processed < number then some (number - rig.processed) else none
  completed := rig.completed.reverse

/-- So a step of such a rig is a step of its meter. -/
theorem Faulty.meter_process (h : Faulty segment number reason rig) :
    rig.process.value = .ok () ∧ rig.process.raised = (rig.meter number).alarm reason ∧
      rig.process.state.meter number = (rig.meter number).step := by
  -- the fuse is down to its last step just when the rig is about to make the step of the fault
  have hfuse : (rig.meter number).fuse = some 1 ↔ number = rig.processed + 1 := by
    unfold meter
    dsimp only
    split
    · rw [Option.some.injEq]
      omega
    · refine iff_of_false (by simp) (by omega)
  unfold Stack.Meter.alarm Stack.Meter.step
  simp only [hfuse]
  by_cases hnow : number = rig.processed + 1
  · rw [h.process_of_eq hnow, if_pos hnow, if_pos hnow]
    refine ⟨rfl, rfl, ?_⟩
    unfold meter Stack.Meter.strike
    rw [if_neg (by dsimp only; omega)]
  · have hless : (rig.meter number).fuse.map (· - 1) =
        if rig.processed + 1 < number then some (number - (rig.processed + 1)) else none := by
      unfold meter
      by_cases hahead : rig.processed < number
      · rw [if_pos hahead, if_pos (by omega), Option.map_some, Nat.sub_sub]
      · rw [if_neg hahead, if_neg (by omega), Option.map_none]
    rw [h.process_of_ne hnow, if_neg hnow, if_neg hnow, hless]
    refine ⟨rfl, rfl, ?_⟩
    unfold meter
    dsimp only
    by_cases hlast : rig.pending = 1
    · rw [if_pos hlast, if_pos hlast, hlast]
      exact congrArg _ List.reverse_cons
    · rw [if_neg hlast, if_neg hlast]

/-- There is one fault to come, until its step is made. -/
def metered (segment number : Nat) (reason : String) :
    Rig.stack.Metered (fun length => max 1 ((length + (segment - 1)) / segment)) reason where
  valid := Faulty segment number reason
  meter := meter number
  waiting rig := rig.inbox.length
  steps_pos _ := Nat.lt_of_lt_of_le Nat.zero_lt_one (Nat.le_max_left _ _)
  valid_after entry hentry hvalid := by
    cases hentry with
    | send frame around rig =>
        have hvalid : Faulty segment number reason rig := hvalid
        show Faulty segment number reason (rig.send frame).state
        rw [hvalid.send_eq]
        exact hvalid.of_eq rfl rfl
    | process around rig => exact Faulty.process hvalid
    | recv around rig =>
        have hvalid : Faulty segment number reason rig := hvalid
        show Faulty segment number reason rig.recv.state
        unfold recv
        cases rig.inbox <;> exact hvalid.of_eq rfl rfl
    | transmitting | available | sleepTime => exact hvalid
  send_queues frame _ rig hvalid _ := by
    show (rig.send frame).value = _ ∧ (rig.send frame).raised = _ ∧
      (rig.send frame).state.meter number = _
    rw [hvalid.send_eq]
    exact ⟨rfl, rfl, rfl⟩
  send_keeps frame _ rig hvalid := by
    show _ <+: ((rig.send frame).state.meter number).completed
    rw [hvalid.send_eq]
    exact List.prefix_rfl
  process_steps _ _ hvalid := hvalid.meter_process
  transmitting_tells _ _ _ := ⟨rfl, rfl, rfl⟩
  available_keeps _ _ _ := ⟨rfl, rfl, rfl⟩
  recv_takes _ rig _ := by
    show rig.recv.raised = _ ∧ rig.recv.state.meter number = _ ∧
      (rig.recv.value ≠ _ → rig.recv.state.inbox.length < _)
    unfold recv
    cases hinbox : rig.inbox with
    | nil => exact ⟨rfl, rfl, fun hsome => absurd rfl hsome⟩
    | cons => exact ⟨rfl, rfl, fun _ => Nat.lt_succ_self _⟩
  sleepTime_keeps _ _ _ := ⟨rfl, rfl⟩

end Faulty

end Simulation.Rig

end Reflash
