import Reflash.Link.Basic

/-!
# How the operations of a link can end

The loops of a link get a number of rounds. This module says without any number what they do. A
transmission `Pumps` and a wait `Waits`, round by round, until one of a few things ends it, which
`Transmitted` and `Awaited` list; `Discarded` and `Sent` do the same for dropping what waits and
for a whole send. An outcome that a loop gives is one of these, and every one of these is given,
always the same, as soon as the rounds suffice.
-/

namespace Reflash.Link

variable {σ : Type} {stack : Stack σ}

/-! ## The flag -/

/-- The error that a raised flag is turned into. -/
def faultError (link : Link σ) : Error :=
  .transportFault (link.fault.reason?.getD unknownReason)

/-- The link once the reason of its flag is taken away. -/
def reported (link : Link σ) : Link σ :=
  { link with fault := link.fault.withoutReason }

/-- A raised flag is turned into an error. -/
theorem checkFault_of_raised {link : Link σ} (h : link.fault.isRaised = true) :
    link.checkFault = (.error link.faultError, link.reported) :=
  if_pos h

/-- While the flag is down, nothing happens at a check. -/
theorem checkFault_of_lowered {link : Link σ} (h : link.fault.isRaised = false) :
    link.checkFault = (.ok (), link) :=
  if_neg (by rw [h]; exact Bool.false_ne_true)

/-! ## Dropping what waits -/

/-- Waiting payloads are dropped up to the point where the stack has none to give. -/
inductive Discarded (stack : Stack σ) : Link σ → Link σ → Prop where
  | nothing {link final} : link.call stack.available = (false, final) → Discarded stack link final
  | empty {link looked final} : link.call stack.available = (true, looked) →
      looked.call stack.recv = (none, final) → Discarded stack link final
  | dropped {link looked next final payload} : link.call stack.available = (true, looked) →
      looked.call stack.recv = (some payload, next) → Discarded stack next final →
      Discarded stack link final

/-- Whatever dropping comes to, it ends in one of the two ways. -/
theorem discarded_of_discardStale {rounds : Nat} {link final : Link σ} {log : List Log.Record}
    (h : discardStale stack rounds link = some (log, final)) : Discarded stack link final := by
  induction rounds generalizing link log with
  | zero => cases h
  | succ rounds ih =>
      unfold discardStale at h
      rcases hlook : link.call stack.available with ⟨_ | _, looked⟩
      · rw [hlook] at h
        cases h
        exact .nothing hlook
      · rcases htake : looked.call stack.recv with ⟨_ | payload, next⟩
        · simp only [hlook, htake, Option.some.injEq, Prod.mk.injEq] at h
          obtain ⟨_, rfl⟩ := h
          exact .empty hlook htake
        · simp only [hlook, htake] at h
          cases hlater : discardStale stack rounds next with
          | none =>
              rw [hlater] at h
              cases h
          | some later =>
              simp only [hlater, Option.some.injEq, Prod.mk.injEq] at h
              obtain ⟨_, rfl⟩ := h
              exact .dropped hlook htake (ih hlater)

/-- Dropping that ends in one of these ways comes back with enough rounds. -/
theorem Discarded.eventually {link final : Link σ} (h : Discarded stack link final) :
    ∃ needed, ∀ rounds ≥ needed, ∃ log, discardStale stack rounds link = some (log, final) := by
  induction h with
  | nothing hlook =>
      refine ⟨1, fun rounds hrounds => ?_⟩
      obtain ⟨rounds, rfl⟩ := Nat.exists_eq_add_of_le' hrounds
      exact ⟨[], by simp only [discardStale, hlook]⟩
  | empty hlook htake =>
      refine ⟨1, fun rounds hrounds => ?_⟩
      obtain ⟨rounds, rfl⟩ := Nat.exists_eq_add_of_le' hrounds
      exact ⟨[], by simp only [discardStale, hlook, htake]⟩
  | dropped hlook htake _ ih =>
      obtain ⟨needed, hneeded⟩ := ih
      refine ⟨needed + 1, fun rounds hrounds => ?_⟩
      obtain ⟨rounds, rfl⟩ := Nat.exists_eq_add_of_le' (Nat.le_trans (Nat.le_add_left 1 _) hrounds)
      obtain ⟨log, hlog⟩ := hneeded rounds (Nat.le_of_succ_le_succ hrounds)
      simp only [discardStale, hlook, htake, hlog]
      exact ⟨_, rfl⟩

/-! ## Transmissions -/

/-- A transmission queued at `start` goes on from one look at the stack to a later one. -/
inductive Pumps (stack : Stack σ) (start : Duration) : Link σ → Link σ → Prop where
  | here (link) : Pumps stack start link link
  | round {link looked stepped last} : link.call stack.transmitting = (true, looked) →
      looked.fault.isRaised = false →
      (looked.clock.since start).reached looked.config.sendTimeout = false →
      looked.call stack.process = (.ok (), stepped) → Pumps stack start (stepped.idle stack) last →
      Pumps stack start link last

/-- What can end a transmission at the look at which it has arrived. -/
inductive Transmitted (stack : Stack σ) (size : Nat) (start : Duration) (link : Link σ) :
    Except Error Unit → Link σ → Prop where
  /-- The payload is out. -/
  | out {last looked} : Pumps stack start link last →
      last.call stack.transmitting = (false, looked) → looked.fault.isRaised = false →
      Transmitted stack size start link (.ok ()) looked
  /-- The flag is raised, whether the payload is out or not. -/
  | fault {last looked answer} : Pumps stack start link last →
      last.call stack.transmitting = (answer, looked) → looked.fault.isRaised = true →
      Transmitted stack size start link (.error looked.faultError) looked.reported
  /-- Time is up. -/
  | late {last looked} : Pumps stack start link last →
      last.call stack.transmitting = (true, looked) → looked.fault.isRaised = false →
      (looked.clock.since start).reached looked.config.sendTimeout = true →
      Transmitted stack size start link
        (.error (.timeout (.transmission size looked.config.sendTimeout))) looked
  /-- The stack refuses a step. -/
  | broken {last looked final error} : Pumps stack start link last →
      last.call stack.transmitting = (true, looked) → looked.fault.isRaised = false →
      (looked.clock.since start).reached looked.config.sendTimeout = false →
      looked.call stack.process = (.error error, final) →
      Transmitted stack size start link (.error error) final

/-- A round more in front makes no difference to how a transmission ends. -/
theorem Transmitted.after_round {size : Nat} {start : Duration} {link next final : Link σ}
    {result : Except Error Unit} (hround : ∀ {last}, Pumps stack start next last →
      Pumps stack start link last) (h : Transmitted stack size start next result final) :
    Transmitted stack size start link result final := by
  cases h with
  | out hpumps hlook hfault => exact .out (hround hpumps) hlook hfault
  | fault hpumps hlook hfault => exact .fault (hround hpumps) hlook hfault
  | late hpumps hlook hfault htime => exact .late (hround hpumps) hlook hfault htime
  | broken hpumps hlook hfault htime hstep =>
      exact .broken (hround hpumps) hlook hfault htime hstep

/-- Whatever a transmission comes to, it ends in one of the ways listed. -/
theorem transmitted_of_transmit {size : Nat} {start : Duration} {rounds : Nat}
    {link final : Link σ} {result : Except Error Unit}
    (h : transmit stack size start rounds link = some (result, final)) :
    Transmitted stack size start link result final := by
  induction rounds generalizing link with
  | zero => cases h
  | succ rounds ih =>
      unfold transmit at h
      rcases hlook : link.call stack.transmitting with ⟨answer, looked⟩
      -- a raised flag ends the loop whatever the look has said, so it comes before the answer
      cases hfault : looked.fault.isRaised with
      | true =>
          have hend : (Except.error looked.faultError, looked.reported) = (result, final) := by
            cases answer <;>
              simpa only [hlook, checkFault_of_raised hfault, Option.some.injEq] using h
          cases hend
          exact .fault (.here link) hlook hfault
      | false =>
          cases answer with
          | false =>
              simp only [hlook, checkFault_of_lowered hfault, Option.some.injEq,
                Prod.mk.injEq] at h
              obtain ⟨rfl, rfl⟩ := h
              exact .out (.here link) hlook hfault
          | true =>
              simp only [hlook, checkFault_of_lowered hfault] at h
              cases htime : (looked.clock.since start).reached looked.config.sendTimeout with
              | true =>
                  rw [if_pos htime] at h
                  cases h
                  exact .late (.here link) hlook hfault htime
              | false =>
                  rw [if_neg (by rw [htime]; exact Bool.false_ne_true)] at h
                  rcases hstep : looked.call stack.process with ⟨error | _, stepped⟩
                  · simp only [hstep, Option.some.injEq, Prod.mk.injEq] at h
                    obtain ⟨rfl, rfl⟩ := h
                    exact .broken (.here link) hlook hfault htime hstep
                  · simp only [hstep] at h
                    exact (ih h).after_round fun hpumps => .round hlook hfault htime hstep hpumps

/-- What a transmission gives after the rounds in front of a look is what it gives from there. -/
theorem Pumps.transmit_eq {start : Duration} {link last : Link σ}
    (h : Pumps stack start link last) (size : Nat) :
    ∃ passed, ∀ rounds, transmit stack size start (rounds + passed) link =
      transmit stack size start rounds last := by
  induction h with
  | here => exact ⟨0, fun _ => rfl⟩
  | round hlook hfault htime hstep _ ih =>
      obtain ⟨passed, hpassed⟩ := ih
      refine ⟨passed + 1, fun rounds => ?_⟩
      rw [← Nat.add_assoc, transmit]
      simp only [hlook, checkFault_of_lowered hfault, htime, Bool.false_eq_true, if_false, hstep,
        hpassed]

/-- A transmission that ends in one of these ways comes back with enough rounds. -/
theorem Transmitted.eventually {size : Nat} {start : Duration} {link final : Link σ}
    {result : Except Error Unit} (h : Transmitted stack size start link result final) :
    ∃ needed, ∀ rounds ≥ needed,
      transmit stack size start rounds link = some (result, final) := by
  have hlast : ∃ last, Pumps stack start link last ∧
      ∀ rounds, transmit stack size start (rounds + 1) last = some (result, final) := by
    cases h with
    | out hpumps hlook hfault =>
        refine ⟨_, hpumps, fun rounds => ?_⟩
        simp only [transmit, hlook, checkFault_of_lowered hfault]
    | @fault last looked answer hpumps hlook hfault =>
        refine ⟨_, hpumps, fun rounds => ?_⟩
        cases answer <;> simp only [transmit, hlook, checkFault_of_raised hfault]
    | late hpumps hlook hfault htime =>
        refine ⟨_, hpumps, fun rounds => ?_⟩
        simp only [transmit, hlook, checkFault_of_lowered hfault, htime, if_true]
    | broken hpumps hlook hfault htime hstep =>
        refine ⟨_, hpumps, fun rounds => ?_⟩
        simp only [transmit, hlook, checkFault_of_lowered hfault, htime, Bool.false_eq_true,
          if_false, hstep]
  obtain ⟨last, hpumps, hlast⟩ := hlast
  obtain ⟨passed, hpassed⟩ := hpumps.transmit_eq size
  -- the round that ends it comes on top of those before
  refine ⟨1 + passed, fun rounds hrounds => ?_⟩
  obtain ⟨rounds, rfl⟩ := Nat.exists_eq_add_of_le' hrounds
  rw [← Nat.add_assoc, hpassed]
  exact hlast rounds

/-! ## Sends -/

/-- A send begins by lowering the flag and dropping what waits. Then the payload is handed to the
stack, which refuses it or transmits it. -/
inductive Sent (stack : Stack σ) (payload : Bytes) (link : Link σ) :
    Except Error Unit → Link σ → Prop where
  | refused {ready final error} :
      Discarded stack { link with fault := .lowered } ready →
      ready.call (stack.send payload) = (.error error, final) →
      Sent stack payload link (.error error) final
  | queued {ready queued result final} :
      Discarded stack { link with fault := .lowered } ready →
      ready.call (stack.send payload) = (.ok (), queued) →
      Transmitted stack payload.length queued.clock queued result final →
      Sent stack payload link result final

/-- Whatever a send comes to, it ends in one of the ways listed. -/
theorem sent_of_send {rounds : Nat} {link : Link σ} {payload : Bytes} {reply : Reply (Link σ) Unit}
    (h : send stack rounds link payload = some reply) :
    Sent stack payload link reply.result reply.state := by
  unfold send at h
  cases hdrop : discardStale stack rounds { link with fault := link.fault.clear } with
  | none =>
      rw [hdrop] at h
      cases h
  | some dropped =>
      obtain ⟨log, ready⟩ := dropped
      rcases hqueue : ready.call (stack.send payload) with ⟨error | _, queued⟩
      · simp only [hdrop, hqueue, Option.some.injEq] at h
        subst h
        exact .refused (discarded_of_discardStale hdrop) hqueue
      · simp only [hdrop, hqueue] at h
        cases htransmit : transmit stack payload.length queued.clock rounds queued with
        | none =>
            rw [htransmit] at h
            cases h
        | some outcome =>
            simp only [htransmit, Option.some.injEq] at h
            subst h
            exact .queued (discarded_of_discardStale hdrop) hqueue
              (transmitted_of_transmit htransmit)

/-- A send that ends in one of these ways comes back with enough rounds. -/
theorem Sent.eventually {payload : Bytes} {link final : Link σ} {result : Except Error Unit}
    (h : Sent stack payload link result final) :
    ∃ needed, ∀ rounds ≥ needed, ∃ log,
      send stack rounds link payload = some { result, state := final, log } := by
  cases h with
  | refused hdrop hqueue =>
      obtain ⟨needed, hneeded⟩ := hdrop.eventually
      refine ⟨needed, fun rounds hrounds => ?_⟩
      obtain ⟨log, hlog⟩ := hneeded rounds hrounds
      simp only [send, Fault.Flag.clear, hlog, hqueue]
      exact ⟨_, rfl⟩
  | queued hdrop hqueue htransmit =>
      obtain ⟨first, hfirst⟩ := hdrop.eventually
      obtain ⟨second, hsecond⟩ := htransmit.eventually
      refine ⟨max first second, fun rounds hrounds => ?_⟩
      obtain ⟨log, hlog⟩ := hfirst rounds (Nat.le_trans (Nat.le_max_left _ _) hrounds)
      have hout := hsecond rounds (Nat.le_trans (Nat.le_max_right _ _) hrounds)
      simp only [send, Fault.Flag.clear, hlog, hqueue, hout]
      exact ⟨_, rfl⟩

/-! ## Waits -/

/-- A wait that began at `start` goes on from one poll to a later one. -/
inductive Waits (stack : Stack σ) (timeout start : Duration) : Link σ → Link σ → Prop where
  | here (link) : Waits stack timeout start link link
  | round {link looked stepped last} : await.poll stack link = (none, looked) →
      looked.fault.isRaised = false → (looked.clock.since start).reached timeout = false →
      looked.call stack.process = (.ok (), stepped) →
      Waits stack timeout start (stepped.idle stack) last → Waits stack timeout start link last

/-- What can end a wait at the poll at which it has arrived. -/
inductive Awaited (stack : Stack σ) (timeout start : Duration) (link : Link σ) :
    Except Error (Option Bytes) → Link σ → Prop where
  /-- A payload has come in. -/
  | came {last final payload} : Waits stack timeout start link last →
      await.poll stack last = (some payload, final) →
      Awaited stack timeout start link (.ok (some payload)) final
  /-- The flag is raised. -/
  | fault {last looked} : Waits stack timeout start link last →
      await.poll stack last = (none, looked) → looked.fault.isRaised = true →
      Awaited stack timeout start link (.error looked.faultError) looked.reported
  /-- Time is up. -/
  | late {last looked} : Waits stack timeout start link last →
      await.poll stack last = (none, looked) → looked.fault.isRaised = false →
      (looked.clock.since start).reached timeout = true →
      Awaited stack timeout start link (.ok none) looked
  /-- The stack refuses a step. -/
  | broken {last looked final error} : Waits stack timeout start link last →
      await.poll stack last = (none, looked) → looked.fault.isRaised = false →
      (looked.clock.since start).reached timeout = false →
      looked.call stack.process = (.error error, final) →
      Awaited stack timeout start link (.error error) final

/-- A round more in front makes no difference to how a wait ends. -/
theorem Awaited.after_round {timeout start : Duration} {link next final : Link σ}
    {result : Except Error (Option Bytes)} (hround : ∀ {last}, Waits stack timeout start next last →
      Waits stack timeout start link last) (h : Awaited stack timeout start next result final) :
    Awaited stack timeout start link result final := by
  cases h with
  | came hwaits hpoll => exact .came (hround hwaits) hpoll
  | fault hwaits hpoll hfault => exact .fault (hround hwaits) hpoll hfault
  | late hwaits hpoll hfault htime => exact .late (hround hwaits) hpoll hfault htime
  | broken hwaits hpoll hfault htime hstep =>
      exact .broken (hround hwaits) hpoll hfault htime hstep

/-- Whatever a wait comes to, it ends in one of the ways listed. -/
theorem awaited_of_await {timeout start : Duration} {rounds : Nat} {link : Link σ}
    {reply : Reply (Link σ) (Option Bytes)}
    (h : await stack timeout start rounds link = some reply) :
    Awaited stack timeout start link reply.result reply.state := by
  induction rounds generalizing link with
  | zero => cases h
  | succ rounds ih =>
      unfold await at h
      rcases hpoll : await.poll stack link with ⟨_ | payload, looked⟩
      · simp only [hpoll] at h
        cases hfault : looked.fault.isRaised with
        | true =>
            simp only [checkFault_of_raised hfault, Option.some.injEq] at h
            subst h
            exact .fault (.here link) hpoll hfault
        | false =>
            simp only [checkFault_of_lowered hfault] at h
            cases htime : (looked.clock.since start).reached timeout with
            | true =>
                rw [if_pos htime] at h
                cases h
                exact .late (.here link) hpoll hfault htime
            | false =>
                rw [if_neg (by rw [htime]; exact Bool.false_ne_true)] at h
                rcases hstep : looked.call stack.process with ⟨error | _, stepped⟩
                · simp only [hstep, Option.some.injEq] at h
                  subst h
                  exact .broken (.here link) hpoll hfault htime hstep
                · simp only [hstep] at h
                  exact (ih h).after_round fun hwaits => .round hpoll hfault htime hstep hwaits
      · simp only [hpoll, Option.some.injEq] at h
        subst h
        exact .came (.here link) hpoll

/-- What a wait gives after the rounds in front of a poll is what it gives from there. -/
theorem Waits.await_eq {timeout start : Duration} {link last : Link σ}
    (h : Waits stack timeout start link last) :
    ∃ passed, ∀ rounds, await stack timeout start (rounds + passed) link =
      await stack timeout start rounds last := by
  induction h with
  | here => exact ⟨0, fun _ => rfl⟩
  | round hpoll hfault htime hstep _ ih =>
      obtain ⟨passed, hpassed⟩ := ih
      refine ⟨passed + 1, fun rounds => ?_⟩
      rw [← Nat.add_assoc, await]
      simp only [hpoll, checkFault_of_lowered hfault, htime, Bool.false_eq_true, if_false, hstep,
        hpassed]

/-- A payload that is there at a poll is received, however many rounds there are beyond those in
front of the poll. -/
theorem Waits.eventually_came {timeout start : Duration} {link last final : Link σ}
    {payload : Bytes} (h : Waits stack timeout start link last)
    (hpoll : await.poll stack last = (some payload, final)) :
    ∃ needed, ∀ rounds ≥ needed, ∃ log, await stack timeout start rounds link =
      some { result := .ok (some payload), state := final, log } := by
  obtain ⟨passed, hpassed⟩ := h.await_eq
  refine ⟨1 + passed, fun rounds hrounds => ?_⟩
  obtain ⟨rounds, rfl⟩ := Nat.exists_eq_add_of_le' hrounds
  rw [← Nat.add_assoc, hpassed]
  simp only [await, hpoll]
  exact ⟨_, rfl⟩

end Reflash.Link
