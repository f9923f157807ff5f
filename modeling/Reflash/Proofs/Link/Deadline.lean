import Mathlib.Order.Bounds.Basic
import Reflash.Proofs.Link.Bounds

/-!
# What comes of a deadline

When nothing takes time but the pauses of a link, it can be said beforehand what a loop with a
deadline comes to. `Paced` are its rounds: a look after which it goes on, a step, and a pause that
always takes the same time. The loop makes the steps that it takes for the last look if the last of
these steps begins before the deadline, and otherwise as many as it takes for the deadline to pass.
The look behind the last step comes before the look at the clock, so that it still counts.

`send_ends_at_deadline` says this of sends and `receive_ends_at_deadline` of receives.
-/

namespace Reflash.Link

open Stack

variable {σ α : Type} {stack : Stack σ}

/-! ## Rounds that take the same time -/

/-- The call comes back with `value`. It takes no time and raises nothing. -/
structure Quiet (act : Surroundings → σ → Outcome σ α) (link : Link σ) (value : α)
    (next : Link σ) : Prop where
  call_eq : link.call act = (value, next)
  clock_eq : next.clock = link.clock
  fault_eq : next.fault = link.fault

/-- What a loop looks at before a step: whether a payload is still on its way out, or whether one
has come in. -/
inductive Look where
  | transmitting
  | available

/-- The call that looks. -/
def Look.act (stack : Stack σ) : Look → Surroundings → σ → Outcome σ Bool
  | .transmitting => stack.transmitting
  | .available => stack.available

/-- The answer after which the loop goes on. -/
def Look.onward : Look → Bool
  | .transmitting => true
  | .available => false

/-- A pause of `delay`: the fixed one of the link, or else the one that the stack suggests. -/
inductive Pauses (stack : Stack σ) (delay : Duration) : Link σ → Link σ → Prop where
  | fixed {link} : link.config.pollInterval = some delay →
      Pauses stack delay link { link with clock := link.clock.add delay }
  | suggested {link asked} : link.config.pollInterval = none →
      Quiet stack.sleepTime link delay asked →
      Pauses stack delay link { asked with clock := asked.clock.add delay }

/-- So many rounds of a loop lead from one link to another. In each the loop looks and goes on,
makes a step without an error, and pauses for `delay`; nothing else takes time, and the flag stays
as it is. -/
inductive Paced (stack : Stack σ) (look : Look) (delay : Duration) :
    Nat → Link σ → Link σ → Prop where
  | here (link) : Paced stack look delay 0 link link
  | round {rounds link looked stepped paused last} :
      Quiet (look.act stack) link look.onward looked →
      Quiet stack.process looked (.ok ()) stepped → Pauses stack delay stepped paused →
      Paced stack look delay rounds paused last → Paced stack look delay (rounds + 1) link last

/-- The last of so many steps, each followed by a pause of `delay`, begins before the limit. -/
def BegunInTime (delay limit : Duration) (steps : Nat) : Prop :=
  steps = 0 ∨ (steps - 1) * delay.nanoseconds < limit.nanoseconds

section Rounds

variable {look : Look} {delay start limit timeout : Duration} {rounds : Nat}
  {link looked paused last : Link σ}

/-- A poll finds nothing if the stack says that there is nothing. -/
theorem poll_of_unavailable (h : link.call stack.available = (false, looked)) :
    await.poll stack link = (none, looked) := by
  unfold await.poll
  rw [h]

/-- A call leaves the settings alone. -/
theorem Quiet.config_eq {act : Surroundings → σ → Outcome σ α} {value : α}
    (h : Quiet act link value looked) : looked.config = link.config :=
  (config_clock_of_call h.call_eq).1

/-- What is called a pause is what the link does between two steps. -/
theorem Pauses.idle_eq (h : Pauses stack delay link paused) : link.idle stack = paused := by
  unfold idle
  cases h with
  | fixed hfixed => rw [hfixed]
  | suggested hnone hasked =>
      rw [hnone]
      dsimp only
      rw [hasked.call_eq]

/-- A pause takes its time, and leaves settings and flag alone. -/
theorem Pauses.kept (h : Pauses stack delay link paused) :
    paused.config = link.config ∧ paused.fault = link.fault ∧
      paused.clock.nanoseconds = link.clock.nanoseconds + delay.nanoseconds := by
  cases h with
  | fixed => exact ⟨rfl, rfl, rfl⟩
  | suggested _ hasked =>
      refine ⟨hasked.config_eq, hasked.fault_eq, ?_⟩
      show (_ + _ : Nat) = _
      rw [hasked.clock_eq]

/-- The rounds keep settings and flag, and take the time of their pauses. -/
theorem Paced.kept (h : Paced stack look delay rounds link last) :
    last.config = link.config ∧ last.fault = link.fault ∧
      last.clock.nanoseconds = link.clock.nanoseconds + rounds * delay.nanoseconds := by
  induction h with
  | here => exact ⟨rfl, rfl, by rw [Nat.zero_mul, Nat.add_zero]⟩
  | round hlook hstep hpause _ ih =>
      obtain ⟨hconfig, hfault, hclock⟩ := ih
      obtain ⟨hpaused, hsame, htime⟩ := hpause.kept
      refine ⟨?_, ?_, ?_⟩
      · rw [hconfig, hpaused, hstep.config_eq, hlook.config_eq]
      · rw [hfault, hsame, hstep.fault_eq, hlook.fault_eq]
      · rw [hclock, htime, hstep.clock_eq, hlook.clock_eq, Nat.succ_mul]
        omega

/-- The first rounds, and those that are left after them. -/
theorem Paced.split {first second : Nat} (h : Paced stack look delay (first + second) link last) :
    ∃ mid, Paced stack look delay first link mid ∧ Paced stack look delay second mid last := by
  induction first generalizing link with
  | zero =>
      rw [Nat.zero_add] at h
      exact ⟨link, .here link, h⟩
  | succ first ih =>
      rw [Nat.succ_add] at h
      cases h with
      | round hlook hstep hpause hlater =>
          obtain ⟨mid, hfirst, hsecond⟩ := ih hlater
          exact ⟨mid, .round hlook hstep hpause hfirst, hsecond⟩

/-- The flag is down, and the last of the rounds to come begins before the deadline. -/
structure Ahead (delay start limit : Duration) (rounds : Nat) (link : Link σ) : Prop where
  fault_eq : link.fault = .lowered
  start_le : start.nanoseconds ≤ link.clock.nanoseconds
  begun : rounds = 0 ∨ link.clock.nanoseconds + (rounds - 1) * delay.nanoseconds <
    start.nanoseconds + limit.nanoseconds

/-- At the start of a loop with the flag down, all of its rounds are still to come. -/
theorem BegunInTime.ahead (h : BegunInTime delay limit rounds) (hlowered : link.fault = .lowered) :
    Ahead delay link.clock limit rounds link where
  fault_eq := hlowered
  start_le := Nat.le_refl _
  begun := h.imp_right fun hlast => Nat.add_lt_add_left hlast _

/-- The next of the rounds to come, which begins in time, and those after it. -/
structure NextRound (stack : Stack σ) (look : Look) (delay start limit : Duration) (rounds : Nat)
    (link looked stepped last : Link σ) : Prop where
  look_eq : link.call (look.act stack) = (look.onward, looked)
  isRaised_eq : looked.fault.isRaised = false
  reached_eq : (looked.clock.since start).reached limit = false
  step_eq : looked.call stack.process = (.ok (), stepped)
  config_eq : looked.config = link.config ∧ (stepped.idle stack).config = link.config
  later : Paced stack look delay rounds (stepped.idle stack) last
  ahead : Ahead delay start limit rounds (stepped.idle stack)

/-- As long as the deadline lies ahead, the loop goes on with a round. -/
theorem Paced.nextRound (h : Paced stack look delay (rounds + 1) link last)
    (hahead : Ahead delay start limit (rounds + 1) link) :
    ∃ looked stepped, NextRound stack look delay start limit rounds link looked stepped last := by
  cases h with
  | @round _ _ looked stepped paused _ hlook hstep hpause hlater =>
      have hlowered : looked.fault = .lowered := hlook.fault_eq.trans hahead.fault_eq
      obtain ⟨hconfig, hfault, hclock⟩ := hpause.kept
      rw [hstep.config_eq, hlook.config_eq] at hconfig
      rw [hstep.fault_eq] at hfault
      rw [hstep.clock_eq, hlook.clock_eq] at hclock
      have hbegun := hahead.begun.resolve_left (Nat.succ_ne_zero rounds)
      rw [Nat.add_sub_cancel] at hbegun
      have hstart := hahead.start_le
      -- the last of the rounds to come begins in time, and so does this one
      have htime : (looked.clock.since start).reached limit = false := by
        rw [hlook.clock_eq]
        refine decide_eq_false (Nat.not_le_of_lt ?_)
        show link.clock.nanoseconds - start.nanoseconds < limit.nanoseconds
        omega
      have hnext : Ahead delay start limit rounds paused := by
        refine ⟨hfault.trans hlowered, by omega, ?_⟩
        cases rounds with
        | zero => exact .inl rfl
        | succ rounds =>
            right
            rw [Nat.succ_mul] at hbegun
            rw [Nat.add_sub_cancel]
            omega
      obtain rfl := hpause.idle_eq
      exact ⟨looked, stepped, hlook.call_eq, hlowered ▸ rfl, htime, hstep.call_eq,
        ⟨hlook.config_eq, hconfig⟩, hlater, hnext⟩

/-- A transmission goes on through all rounds that begin in time. -/
theorem Paced.pumps (h : Paced stack .transmitting delay rounds link last)
    (hahead : Ahead delay start link.config.sendTimeout rounds link) :
    Pumps stack start link last := by
  induction rounds generalizing link with
  | zero =>
      cases h
      exact .here _
  | succ rounds ih =>
      obtain ⟨looked, stepped, hnext⟩ := h.nextRound hahead
      obtain ⟨hlooked, hpaused⟩ := hnext.config_eq
      have htime := hnext.reached_eq
      rw [← hlooked] at htime
      exact .round hnext.look_eq hnext.isRaised_eq htime hnext.step_eq
        (ih hnext.later (hpaused ▸ hnext.ahead))

/-- So does a wait. -/
theorem Paced.waits (h : Paced stack .available delay rounds link last)
    (hahead : Ahead delay start timeout rounds link) : Waits stack timeout start link last := by
  induction rounds generalizing link with
  | zero =>
      cases h
      exact .here _
  | succ rounds ih =>
      obtain ⟨looked, stepped, hnext⟩ := h.nextRound hahead
      have hpoll : await.poll stack link = (none, looked) := poll_of_unavailable hnext.look_eq
      exact .round hpoll hnext.isRaised_eq hnext.reached_eq hnext.step_eq
        (ih hnext.later hnext.ahead)

end Rounds

/-! ## The deadline among the rounds -/

/-- After the least `number` of pauses that takes the time of the limit, the loop looks and would go
on. -/
structure Overdue (stack : Stack σ) (look : Look) (delay limit : Duration) (link : Link σ)
    (number : Nat) (mid looked : Link σ) : Prop where
  isLeast : IsLeast { number | limit.nanoseconds ≤ number * delay.nanoseconds } number
  passed : Paced stack look delay number link mid
  looks : Quiet (look.act stack) mid look.onward looked

section Overdue

variable {look : Look} {delay limit : Duration} {rounds number : Nat}
  {link mid looked last : Link σ}

/-- The last of the least number of pauses begins in time. -/
theorem begunInTime_of_isLeast
    (h : IsLeast { number | limit.nanoseconds ≤ number * delay.nanoseconds } number) :
    BegunInTime delay limit number := by
  rcases Nat.eq_zero_or_pos number with hzero | hpos
  · exact .inl hzero
  · refine .inr (Nat.lt_of_not_le fun hless => ?_)
    have hleast : number ≤ number - 1 := h.2 hless
    omega

/-- Rounds that do not all begin in time are more than it takes for the deadline to pass. -/
theorem exists_isLeast_lt (h : ¬ BegunInTime delay limit rounds) :
    ∃ number, IsLeast { number | limit.nanoseconds ≤ number * delay.nanoseconds } number ∧
      number < rounds := by
  obtain ⟨hsome, hlate⟩ := not_or.mp h
  have hreached : ∃ number, limit.nanoseconds ≤ number * delay.nanoseconds :=
    ⟨rounds - 1, Nat.le_of_not_lt hlate⟩
  have hle : Nat.find hreached ≤ rounds - 1 := Nat.find_min' hreached (Nat.le_of_not_lt hlate)
  refine ⟨Nat.find hreached, ⟨Nat.find_spec hreached, fun _ => Nat.find_min' hreached⟩, ?_⟩
  omega

/-- Where the rounds do not all begin in time, the deadline passes with rounds still to come. -/
theorem Paced.overdue (h : Paced stack look delay rounds link last)
    (hlate : ¬ BegunInTime delay limit rounds) :
    ∃ number mid looked, Overdue stack look delay limit link number mid looked ∧
      number < rounds ∧ Paced stack look delay (rounds - number) mid last := by
  obtain ⟨number, hleast, hlt⟩ := exists_isLeast_lt hlate
  obtain ⟨more, rfl⟩ := Nat.exists_eq_add_of_lt hlt
  rw [Nat.add_assoc] at h
  obtain ⟨mid, hpassed, hpending⟩ := h.split
  obtain ⟨looked, hlooks⟩ : ∃ looked, Quiet (look.act stack) mid look.onward looked := by
    cases hpending with
    | round hlook _ _ _ => exact ⟨_, hlook⟩
  refine ⟨number, mid, looked, ⟨hleast, hpassed, hlooks⟩, hlt, ?_⟩
  rwa [Nat.add_assoc, Nat.add_sub_cancel_left]

/-- The rounds in front of the one that is overdue begin in time. -/
theorem Overdue.ahead (h : Overdue stack look delay limit link number mid looked)
    (hlowered : link.fault = .lowered) : Ahead delay link.clock limit number link :=
  (begunInTime_of_isLeast h.isLeast).ahead hlowered

/-- The flag is down when a loop is overdue. -/
theorem Overdue.isRaised_eq (h : Overdue stack look delay limit link number mid looked)
    (hlowered : link.fault = .lowered) : looked.fault.isRaised = false := by
  rw [h.looks.fault_eq, h.passed.kept.2.1, hlowered]
  rfl

/-- Time is up when a loop is overdue. -/
theorem Overdue.reached_eq (h : Overdue stack look delay limit link number mid looked) :
    (looked.clock.since link.clock).reached limit = true := by
  refine decide_eq_true ?_
  show limit.nanoseconds ≤ looked.clock.nanoseconds - link.clock.nanoseconds
  have htime : limit.nanoseconds ≤ number * delay.nanoseconds := h.isLeast.1
  rw [h.looks.clock_eq, h.passed.kept.2.2, Nat.add_sub_cancel_left]
  exact htime

end Overdue

/-! ## The calls of the rounds -/

section Calls

variable {look : Look} {delay : Duration} {rounds : Nat} {link looked last : Link (Recorded σ)}

/-- A look makes no step. -/
theorem leads_of_look {answer : Bool}
    (h : link.call (look.act stack.recorded) = (answer, looked)) :
    ∃ made, Leads stack link made looked ∧ processed made = [] := by
  cases look with
  | transmitting =>
      obtain ⟨entry, hcall, hspends⟩ := spends_of_call h .transmitting
      exact ⟨[entry], hspends.toLeads, processed_single hcall⟩
  | available =>
      obtain ⟨entry, hcall, hspends⟩ := spends_of_call h .available
      exact ⟨[entry], hspends.toLeads, processed_single hcall⟩

/-- Each round makes one step. -/
theorem Paced.leads (h : Paced stack.recorded look delay rounds link last) :
    ∃ made, Leads stack link made last ∧ processed made = List.replicate rounds (.ok ()) := by
  induction h with
  | here link => exact ⟨[], (Passes.refl link).toLeads, rfl⟩
  | @round rounds link looked stepped paused last hlook hstep hpause _ ih =>
      obtain ⟨seen, hlooked, hseen⟩ := leads_of_look hlook.call_eq
      obtain ⟨step, hcall, hstepped⟩ := spends_of_call hstep.call_eq .process
      obtain ⟨pause, hpaused, hnone⟩ := spends_idle (unhurried_zero stack stepped.config)
      rw [hpause.idle_eq] at hpaused
      obtain ⟨later, hlater, hsteps⟩ := ih
      refine ⟨seen ++ ([step] ++ (pause ++ later)), ?_, ?_⟩
      · exact hlooked.trans (hstepped.toLeads.trans (hpaused.toLeads.trans hlater))
      · rw [processed_append, processed_append, processed_append, hseen, hnone, hsteps,
          processed_single hcall]
        rfl

/-- Calls without a step behind the rounds add nothing to their steps. -/
theorem Paced.leads_append {final : Link (Recorded σ)} {seen : List (Entry σ)}
    (h : Paced stack.recorded look delay rounds link last) (hseen : Leads stack last seen final)
    (hnone : processed seen = []) :
    ∃ made, Leads stack link made final ∧ processed made = List.replicate rounds (.ok ()) := by
  obtain ⟨made, hmade, hsteps⟩ := h.leads
  refine ⟨made ++ seen, hmade.trans hseen, ?_⟩
  rw [processed_append, hsteps, hnone, List.append_nil]

end Calls

/-! ## Sends -/

/-- With enough rounds the operation comes back with `result` and leaves the link as `final`. On the
way from `link` it makes so many steps, none of which ends with an error. -/
structure ComesTo (operation : Nat → Option (Reply (Link (Recorded σ)) α))
    (link : Link (Recorded σ)) (result : Except Error α) (steps : Nat)
    (final : Link (Recorded σ)) : Prop where
  returns : ∃ needed, ∀ rounds ≥ needed, ∃ log,
    operation rounds = some { result, state := final, log }
  steps_eq : ∃ made, final.stack.entries = link.stack.entries ++ made ∧
    processed made = List.replicate steps (.ok ())

/-- Without the calls kept the operation comes back in the same way. -/
theorem ComesTo.unwatched {operation : Nat → Option (Reply (Link (Recorded σ)) α)}
    {plain : Nat → Option (Reply (Link σ) α)} {link final : Link (Recorded σ)}
    {result : Except Error α} {steps : Nat}
    (hplain : ∀ rounds, plain rounds = (operation rounds).map Reply.unwatched)
    (h : ComesTo operation link result steps final) :
    ∃ needed, ∀ rounds ≥ needed, ∃ log,
      plain rounds = some { result, state := final.unwatched, log } := by
  obtain ⟨needed, hneeded⟩ := h.returns
  refine ⟨needed, fun rounds hrounds => ?_⟩
  obtain ⟨log, hreturns⟩ := hneeded rounds hrounds
  refine ⟨log, ?_⟩
  rw [hplain, hreturns]
  rfl

section Operations

variable {delay timeout : Duration} {steps : Nat} {link last looked final : Link (Recorded σ)}

/-- The steps of a send are those of its transmission. -/
theorem comesTo_send {ready queued : Link (Recorded σ)} {payload : Bytes}
    {result : Except Error Unit}
    (hdropped : Discarded stack.recorded { link with fault := .lowered } ready)
    (hqueued : ready.call (stack.recorded.send payload) = (.ok (), queued))
    (hends : Transmitted stack.recorded payload.length queued.clock queued result final)
    (hmade : ∃ made, Leads stack queued made final ∧
      processed made = List.replicate steps (.ok ())) :
    ComesTo (send stack.recorded · link payload) link result steps final where
  returns := (Sent.queued hdropped hqueued hends).eventually
  steps_eq := by
    obtain ⟨dropped, hready, hnone⟩ := hdropped.spends
    obtain ⟨request, hcall, hsent⟩ := spends_of_call hqueued (.send payload)
    obtain ⟨made, hfinal, hsteps⟩ := hmade
    have hleads : Leads stack link (dropped ++ ([request] ++ made)) final :=
      (hready.toLeads.trans (hsent.toLeads.trans hfinal)).of_stack_eq rfl
    refine ⟨_, hleads.entries_eq, ?_⟩
    rw [processed_append, processed_append, hnone, processed_single hcall, hsteps]
    rfl

/-- How a send goes when nothing goes wrong and nothing takes time but its pauses. What waits is
dropped and the payload is queued, with the flag down. After `steps` rounds the payload is out. -/
structure Outgoing (stack : Stack σ) (delay : Duration) (payload : Bytes) (steps : Nat)
    (link queued last out : Link (Recorded σ)) : Prop where
  begun : ∃ count log ready,
    discardStale stack.recorded count { link with fault := .lowered } = some (log, ready) ∧
      ready.call (stack.recorded.send payload) = (.ok (), queued)
  lowered : queued.fault = .lowered
  paced : Paced stack.recorded .transmitting delay steps queued last
  ended : Quiet stack.recorded.transmitting last false out

/-- A send over a stack that needs `steps` steps to get the payload out, with pauses of `delay`. If
the last step begins before the timeout for sends is over, the payload is sent with just these
steps, even if time is up when the last pause ends. Otherwise the send ends with a timeout after the
least number of steps whose pauses take that long, and the others are still to be made. Steps are
counted by keeping the calls on the stack; without that, a send comes back in the same way. -/
theorem send_ends_at_deadline {queued out : Link (Recorded σ)} {payload : Bytes}
    (h : Outgoing stack delay payload steps link queued last out) :
    (BegunInTime delay link.config.sendTimeout steps →
      ComesTo (send stack.recorded · link payload) link (.ok ()) steps out) ∧
    (¬ BegunInTime delay link.config.sendTimeout steps →
      ∃ number mid looked,
        Overdue stack.recorded .transmitting delay link.config.sendTimeout queued number mid
          looked ∧
        number < steps ∧ Paced stack.recorded .transmitting delay (steps - number) mid last ∧
        ComesTo (send stack.recorded · link payload) link
          (.error (.timeout (.transmission payload.length link.config.sendTimeout))) number
          looked) ∧
    ∀ result number final, ComesTo (send stack.recorded · link payload) link result number final →
      ∃ needed, ∀ rounds ≥ needed, ∃ log,
        send stack rounds link.unwatched payload =
          some { result, state := final.unwatched, log } := by
  obtain ⟨⟨count, log, ready, hdropped, hqueued⟩, hlowered, hpaced, hended⟩ := h
  have hdiscarded := discarded_of_discardStale hdropped
  obtain ⟨_, hready, _⟩ := hdiscarded.spends
  have hconfig : queued.config = link.config :=
    (config_clock_of_call hqueued).1.trans hready.config_eq
  rw [← hconfig]
  refine ⟨fun hintime => ?_, fun hlate => ?_,
    fun _ _ _ h => h.unwatched fun rounds => send_unwatched rounds link payload⟩
  · have hpumps := hpaced.pumps (hintime.ahead hlowered)
    have hfault : out.fault.isRaised = false := by
      rw [hended.fault_eq, hpaced.kept.2.1, hlowered]
      rfl
    have hlook : last.call (Look.transmitting.act stack.recorded) = (false, out) := hended.call_eq
    obtain ⟨seen, hseen, hnone⟩ := leads_of_look hlook
    exact comesTo_send hdiscarded hqueued (.out hpumps hended.call_eq hfault)
      (hpaced.leads_append hseen hnone)
  · obtain ⟨number, mid, looked, hoverdue, hlt, hpending⟩ := hpaced.overdue hlate
    refine ⟨number, mid, looked, hoverdue, hlt, hpending, ?_⟩
    have hpumps := hoverdue.passed.pumps (hoverdue.ahead hlowered)
    have hsame : looked.config = queued.config :=
      hoverdue.looks.config_eq.trans hoverdue.passed.kept.1
    have htime := hoverdue.reached_eq
    have hends : Transmitted stack.recorded payload.length queued.clock queued
        (.error (.timeout (.transmission payload.length queued.config.sendTimeout))) looked := by
      rw [← hsame] at htime ⊢
      exact .late hpumps hoverdue.looks.call_eq (hoverdue.isRaised_eq hlowered) htime
    obtain ⟨seen, hseen, hnone⟩ := leads_of_look hoverdue.looks.call_eq
    exact comesTo_send hdiscarded hqueued hends (hoverdue.passed.leads_append hseen hnone)

open Simulation

/-- A rig on which payloads take so many steps to go out, with one waiting and an old fault, behind
a link that gives up after two milliseconds. The rig suggests pauses of one millisecond. -/
def slow (steps : Nat) : Link Rig where
  stack := { Rig.quiet steps with inbox := [some [1]] }
  fault := .raised (some "bus off")
  config := { Config.standard with sendTimeout := .ofMilliseconds 2 }
  clock := .zero

/-- It takes so many pauses of one millisecond for as many milliseconds to go by. -/
theorem isLeast_milliseconds (count : Nat) :
    IsLeast { number | (Duration.ofMilliseconds count).nanoseconds ≤
      number * (Duration.ofMilliseconds 1).nanoseconds } count := by
  refine ⟨Nat.le_refl _, fun number hnumber => ?_⟩
  have htime : count * 1000000 ≤ number * 1000000 := hnumber
  omega

/-- With two steps to go, the payload goes out without trouble. -/
theorem outgoing_slow_two : ∃ queued last out,
    Outgoing Rig.stack (.ofMilliseconds 1) [7] 2 ((slow 2).watched []) queued last out :=
  ⟨_, _, _, ⟨2, _, _, rfl, rfl⟩, rfl,
    .round ⟨rfl, rfl, rfl⟩ ⟨rfl, rfl, rfl⟩ (.suggested rfl ⟨rfl, rfl, rfl⟩)
      (.round ⟨rfl, rfl, rfl⟩ ⟨rfl, rfl, rfl⟩ (.suggested rfl ⟨rfl, rfl, rfl⟩) (.here _)),
    ⟨rfl, rfl, rfl⟩⟩

/-- With three steps to go, it would go out in the same way. -/
theorem outgoing_slow_three : ∃ queued last out,
    Outgoing Rig.stack (.ofMilliseconds 1) [7] 3 ((slow 3).watched []) queued last out :=
  ⟨_, _, _, ⟨2, _, _, rfl, rfl⟩, rfl,
    .round ⟨rfl, rfl, rfl⟩ ⟨rfl, rfl, rfl⟩ (.suggested rfl ⟨rfl, rfl, rfl⟩)
      (.round ⟨rfl, rfl, rfl⟩ ⟨rfl, rfl, rfl⟩ (.suggested rfl ⟨rfl, rfl, rfl⟩)
        (.round ⟨rfl, rfl, rfl⟩ ⟨rfl, rfl, rfl⟩ (.suggested rfl ⟨rfl, rfl, rfl⟩) (.here _))),
    ⟨rfl, rfl, rfl⟩⟩

/-- With two steps the payload is out just when time is up, and is sent. With three steps the send
gives up after two. -/
theorem send_ends_at_deadline_slow :
    (∃ final, ComesTo (send Rig.stack.recorded · ((slow 2).watched []) [7]) ((slow 2).watched [])
      (.ok ()) 2 final) ∧
    ∃ mid last final, Paced Rig.stack.recorded .transmitting (.ofMilliseconds 1) 1 mid last ∧
      ComesTo (send Rig.stack.recorded · ((slow 3).watched []) [7]) ((slow 3).watched [])
        (.error (.timeout (.transmission 1 (.ofMilliseconds 2)))) 2 final := by
  refine ⟨?_, ?_⟩
  · obtain ⟨queued, last, out, houtgoing⟩ := outgoing_slow_two
    exact ⟨out, (send_ends_at_deadline houtgoing).1 (.inr (by decide))⟩
  · obtain ⟨queued, last, out, houtgoing⟩ := outgoing_slow_three
    have hlate : ¬ BegunInTime (.ofMilliseconds 1) (.ofMilliseconds 2) 3 :=
      not_or.mpr ⟨by decide, by decide⟩
    obtain ⟨number, mid, looked, hoverdue, _, hpending, hcomes⟩ :=
      (send_ends_at_deadline houtgoing).2.1 hlate
    obtain rfl := hoverdue.isLeast.unique (isLeast_milliseconds 2)
    exact ⟨mid, last, looked, hpending, hcomes⟩

/-! ## Receives -/

/-- A wait whose time is up at a poll that gives nothing ends without a payload, however many rounds
there are beyond those in front of the poll. -/
theorem Waits.eventually_late {start : Duration} {link last looked : Link σ}
    (h : Waits stack timeout start link last) (hpoll : await.poll stack last = (none, looked))
    (hfault : looked.fault.isRaised = false)
    (htime : (looked.clock.since start).reached timeout = true) :
    ∃ needed, ∀ rounds ≥ needed, ∃ log, await stack timeout start rounds link =
      some { result := .ok none, state := looked, log } := by
  obtain ⟨passed, hpassed⟩ := h.await_eq
  refine ⟨1 + passed, fun rounds hrounds => ?_⟩
  obtain ⟨rounds, rfl⟩ := Nat.exists_eq_add_of_le' hrounds
  rw [← Nat.add_assoc, hpassed]
  simp only [await, hpoll, checkFault_of_lowered hfault, htime, if_true]
  exact ⟨_, rfl⟩

/-- A receive that is overdue gives nothing. -/
theorem Overdue.comesTo {mid : Link (Recorded σ)} {number : Nat}
    (h : Overdue stack.recorded .available delay timeout link number mid looked)
    (hlowered : link.fault = .lowered) :
    ComesTo (receive stack.recorded · link timeout) link (.ok none) number looked where
  returns := by
    have hpoll : await.poll stack.recorded mid = (none, looked) :=
      poll_of_unavailable h.looks.call_eq
    exact (h.passed.waits (h.ahead hlowered)).eventually_late hpoll (h.isRaised_eq hlowered)
      h.reached_eq
  steps_eq := by
    obtain ⟨seen, hseen, hnone⟩ := leads_of_look h.looks.call_eq
    obtain ⟨made, hleads, hsteps⟩ := h.passed.leads_append hseen hnone
    exact ⟨made, hleads.entries_eq, hsteps⟩

/-- Rounds that go on for good reach every deadline, if their pauses take time or no time is
allowed. -/
theorem exists_overdue {look : Look} {link : Link σ}
    (hnever : ∀ rounds, ∃ last, Paced stack look delay rounds link last)
    (hends : 0 < delay.nanoseconds ∨ timeout.nanoseconds = 0) :
    ∃ number mid looked, Overdue stack look delay timeout link number mid looked := by
  have hreached : ∃ rounds, timeout.nanoseconds ≤ rounds * delay.nanoseconds := by
    rcases hends with hpos | hzero
    · exact ⟨timeout.nanoseconds, Nat.le_mul_of_pos_right _ hpos⟩
    · exact ⟨0, Nat.le_trans (Nat.le_of_eq hzero) (Nat.zero_le _)⟩
  obtain ⟨rounds, hrounds⟩ := hreached
  obtain ⟨last, hpaced⟩ := hnever (rounds + 1)
  have hlate : ¬ BegunInTime delay timeout (rounds + 1) :=
    not_or.mpr ⟨Nat.succ_ne_zero rounds, Nat.not_lt_of_le hrounds⟩
  obtain ⟨number, mid, looked, hoverdue, _⟩ := hpaced.overdue hlate
  exact ⟨number, mid, looked, hoverdue⟩

/-- A receive over a stack that has a payload after `steps` steps, or never has one, when nothing
takes time but the pauses of `delay` after the steps. If the last step begins before the timeout is
over, the payload is received after just these steps. Otherwise the receive gives nothing after the
least number of steps whose pauses take that long. Steps are counted by keeping the calls on the
stack; without that, a receive comes back in the same way. -/
theorem receive_ends_at_deadline (delay timeout : Duration) (hlowered : link.fault = .lowered) :
    (∀ steps last looked final payload,
      Paced stack.recorded .available delay steps link last →
      last.call stack.recorded.available = (true, looked) →
      looked.call stack.recorded.recv = (some payload, final) →
      (BegunInTime delay timeout steps →
        ComesTo (receive stack.recorded · link timeout) link (.ok (some payload)) steps final) ∧
      (¬ BegunInTime delay timeout steps →
        ∃ number mid looked,
          Overdue stack.recorded .available delay timeout link number mid looked ∧
          ComesTo (receive stack.recorded · link timeout) link (.ok none) number looked)) ∧
    ((∀ steps, ∃ last, Paced stack.recorded .available delay steps link last) →
      0 < delay.nanoseconds ∨ timeout.nanoseconds = 0 →
      ∃ number mid looked,
        Overdue stack.recorded .available delay timeout link number mid looked ∧
        ComesTo (receive stack.recorded · link timeout) link (.ok none) number looked) ∧
    ∀ result steps final, ComesTo (receive stack.recorded · link timeout) link result steps final →
      ∃ needed, ∀ rounds ≥ needed, ∃ log,
        receive stack rounds link.unwatched timeout =
          some { result, state := final.unwatched, log } := by
  refine ⟨fun steps last looked final payload hpaced hready htaken => ⟨?_, ?_⟩, ?_,
    fun _ _ _ h => h.unwatched fun rounds => receive_unwatched rounds link timeout⟩
  · intro hintime
    have hpoll : await.poll stack.recorded last = (some payload, final) := by
      unfold await.poll
      rw [hready]
      exact htaken
    obtain ⟨seen, hseen, hnone⟩ := spends_of_poll hpoll
    obtain ⟨made, hleads, hsteps⟩ := hpaced.leads_append hseen.toLeads hnone
    exact ⟨(hpaced.waits (hintime.ahead hlowered)).eventually_came hpoll, made,
      hleads.entries_eq, hsteps⟩
  · intro hlate
    obtain ⟨number, mid, looked, hoverdue, _⟩ := hpaced.overdue hlate
    exact ⟨number, mid, looked, hoverdue, hoverdue.comesTo hlowered⟩
  · intro hnever hends
    obtain ⟨number, mid, looked, hoverdue⟩ := exists_overdue hnever hends
    exact ⟨number, mid, looked, hoverdue, hoverdue.comesTo hlowered⟩

/-- A rig on which a payload comes in during the second step, behind a link with pauses of one
millisecond. -/
def arriving : Link Rig where
  stack := { Rig.quiet 0 with
    incidents := [{
      atProcess := some 2
      atSend := none
      raise := none
      deliver := some (some [5])
      delay := .zero
      drop := false
      error := none }] }
  fault := .lowered
  config := { Config.standard with pollInterval := some (.ofMilliseconds 1) }
  clock := .zero

/-- The same link, over a rig on which nothing happens. -/
def idling : Link Rig :=
  { arriving with stack := Rig.quiet 0 }

/-- There nothing ever comes in. -/
theorem exists_paced_idling (steps processed : Nat) (made : List (Entry Rig)) (clock : Duration) :
    ∃ last, Paced Rig.stack.recorded .available (.ofMilliseconds 1) steps
      { idling with stack := { inner := { idling.stack with processed }, newestFirst := made }
                    clock } last := by
  induction steps generalizing processed made clock with
  | zero => exact ⟨_, .here _⟩
  | succ steps ih =>
      obtain ⟨last, hlast⟩ := ih (processed + 1) _ _
      exact ⟨last, .round ⟨rfl, rfl, rfl⟩ ⟨rfl, rfl, rfl⟩ (.fixed rfl) hlast⟩

/-- The payload is received if two milliseconds are allowed, which are up when it is there, but not
if only one is. One that waits already is received without a step and without any time, and where
nothing comes in the receive gives up. -/
theorem receive_ends_at_deadline_arriving :
    (∃ final, ComesTo (receive Rig.stack.recorded · (arriving.watched []) (.ofMilliseconds 2))
      (arriving.watched []) (.ok (some [5])) 2 final) ∧
    (∃ final, ComesTo (receive Rig.stack.recorded · (arriving.watched []) (.ofMilliseconds 1))
      (arriving.watched []) (.ok none) 1 final) ∧
    (∃ last final, ComesTo (receive Rig.stack.recorded · last .zero) last (.ok (some [5])) 0
      final) ∧
    ∃ final, ComesTo (receive Rig.stack.recorded · (idling.watched []) (.ofMilliseconds 2))
      (idling.watched []) (.ok none) 2 final := by
  obtain ⟨last, looked, final, hpaced, hlowered, hready, htaken⟩ : ∃ last looked final,
      Paced Rig.stack.recorded .available (.ofMilliseconds 1) 2 (arriving.watched []) last ∧
      last.fault = .lowered ∧ last.call Rig.stack.recorded.available = (true, looked) ∧
      looked.call Rig.stack.recorded.recv = (some [5], final) :=
    ⟨_, _, _, .round ⟨rfl, rfl, rfl⟩ ⟨rfl, rfl, rfl⟩ (.fixed rfl)
      (.round ⟨rfl, rfl, rfl⟩ ⟨rfl, rfl, rfl⟩ (.fixed rfl) (.here _)), rfl, rfl, rfl⟩
  have hends := fun timeout => (receive_ends_at_deadline (.ofMilliseconds 1) timeout rfl).1 2 last
    looked final [5] hpaced hready htaken
  refine ⟨⟨final, ?_⟩, ?_, ⟨last, final, ?_⟩, ?_⟩
  · exact (hends (.ofMilliseconds 2)).1 (.inr (by decide))
  · have hlate : ¬ BegunInTime (.ofMilliseconds 1) (.ofMilliseconds 1) 2 :=
      not_or.mpr ⟨by decide, by decide⟩
    obtain ⟨number, mid, looked, hoverdue, hcomes⟩ := (hends (.ofMilliseconds 1)).2 hlate
    obtain rfl := hoverdue.isLeast.unique (isLeast_milliseconds 1)
    exact ⟨looked, hcomes⟩
  · exact ((receive_ends_at_deadline .zero .zero hlowered).1 0 last looked final [5] (.here last)
      hready htaken).1 (.inl rfl)
  · obtain ⟨number, mid, looked, hoverdue, hcomes⟩ :=
      (receive_ends_at_deadline (.ofMilliseconds 1) (.ofMilliseconds 2) rfl).2.1
        (exists_paced_idling · 0 [] .zero) (.inl (by decide))
    obtain rfl := hoverdue.isLeast.unique (isLeast_milliseconds 2)
    exact ⟨looked, hcomes⟩

end Operations

end Reflash.Link
