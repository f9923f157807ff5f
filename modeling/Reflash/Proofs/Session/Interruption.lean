import Mathlib.Data.Nat.Find
import Reflash.Proofs.Frame.Damage
import Reflash.Proofs.Link.Metered
import Reflash.Proofs.Session.Freshness

/-!
# Where a fault falls

An upgrade over a stack that takes its steps can be counted through. If the one fault falls within
the steps of the transfer, it falls into those of a certain frame: the upgrade is aborted there, the
frames before it are out, and no frame after it is handed to the stack. If it falls later, or never,
the whole transfer is out. `transferSteps` is the number of steps up to the end of a page, and
`upgrade_counts_pages` the law.
-/

namespace Reflash

open Stack Link Session

variable {σ : Type} {stack : Stack σ} {steps : Nat → Nat} {reason : String}

namespace Link

/-! ## One frame after the other -/

/-- A send has one outcome. -/
theorem Sent.unique {frame : Bytes} {link final last : Link σ} {result other : Except Error Unit}
    (h : Sent stack frame link result final) (hother : Sent stack frame link other last) :
    result = other ∧ final = last := by
  obtain ⟨first, hfirst⟩ := h.eventually
  obtain ⟨second, hsecond⟩ := hother.eventually
  obtain ⟨_, hsend⟩ := hfirst (max first second) (Nat.le_max_left _ _)
  obtain ⟨_, hsame⟩ := hsecond (max first second) (Nat.le_max_right _ _)
  rw [hsend] at hsame
  cases hsame
  exact ⟨rfl, rfl⟩

/-- All of the frames are sent, one after the other. -/
inductive Carried (stack : Stack σ) : Link σ → List Bytes → Link σ → Prop where
  | nil (link) : Carried stack link [] link
  | cons {link frame next frames final} : Sent stack frame link (.ok ()) next →
      Carried stack next frames final → Carried stack link (frame :: frames) final

/-- Where frames are carried to is decided by where they start. -/
theorem Carried.unique {link final last : Link σ} {frames : List Bytes}
    (h : Carried stack link frames final) (hother : Carried stack link frames last) :
    final = last := by
  induction h with
  | nil =>
      cases hother
      rfl
  | cons hsent _ ih =>
      cases hother with
      | cons hsame hrest =>
          obtain ⟨_, rfl⟩ := hsent.unique hsame
          exact ih hrest

/-- Frames that are all carried can be parted anywhere. -/
theorem Carried.of_append {link final : Link σ} {first second : List Bytes}
    (h : Carried stack link (first ++ second) final) :
    ∃ mid, Carried stack link first mid ∧ Carried stack mid second final := by
  induction first generalizing link with
  | nil => exact ⟨link, .nil link, h⟩
  | cons frame rest ih =>
      cases h with
      | cons hsent hrest =>
          obtain ⟨mid, hmid, hsecond⟩ := ih hrest
          exact ⟨mid, .cons hsent hmid, hsecond⟩

/-- Where a frame is not sent, the frames up to it are not all carried. -/
theorem Carried.result_eq_ok {link mid final last : Link σ} {sent rest : List Bytes} {frame : Bytes}
    {result : Except Error Unit} (h : Carried stack link (sent ++ frame :: rest) last)
    (hmid : Carried stack link sent mid) (hsent : Sent stack frame mid result final) :
    result = .ok () := by
  obtain ⟨other, hother, hrest⟩ := h.of_append
  cases hrest with
  | cons hok _ =>
      rw [hmid.unique hother] at hsent
      exact (hsent.unique hok).1

/-- Frames that are taken by the link are carried. -/
theorem carried_of_taken {rounds : Nat} {link final : Link σ} {frames : List Bytes}
    (h : Taken (transport stack rounds) link frames final) : Carried stack link frames final := by
  induction h with
  | nil link => exact .nil link
  | cons hsend hresult _ ih => exact .cons (hresult ▸ sent_of_send hsend) ih

/-- Frames that are carried are taken by a link with enough rounds. -/
theorem Carried.eventually {link final : Link σ} {frames : List Bytes}
    (h : Carried stack link frames final) :
    ∃ needed, ∀ rounds ≥ needed, Taken (transport stack rounds) link frames final := by
  induction h with
  | nil link => exact ⟨0, fun _ _ => .nil link⟩
  | cons hsent _ ih =>
      obtain ⟨first, hfirst⟩ := hsent.eventually
      obtain ⟨others, hothers⟩ := ih
      refine ⟨max first others, fun rounds hrounds => ?_⟩
      obtain ⟨log, hsend⟩ := hfirst rounds (Nat.le_trans (Nat.le_max_left _ _) hrounds)
      exact .cons hsend rfl (hothers rounds (Nat.le_trans (Nat.le_max_right _ _) hrounds))

/-- Of the frames, sent one after the other, none is given up because time is up. -/
def InTime (stack : Stack σ) (link : Link σ) (frames : List Bytes) : Prop :=
  ∀ rounds sent frame rest mid reply lapse, frames = sent ++ frame :: rest →
    Taken (transport stack rounds) link sent mid → send stack rounds mid frame = some reply →
    reply.result ≠ .error (.timeout lapse)

/-- No send among frames that are in time ends with a timeout. -/
theorem InTime.ne_timeout {link mid final : Link σ} {sent rest : List Bytes} {frame : Bytes}
    {result : Except Error Unit} (h : InTime stack link (sent ++ frame :: rest))
    (hmid : Carried stack link sent mid) (hsent : Sent stack frame mid result final)
    (lapse : Lapse) : result ≠ .error (.timeout lapse) := by
  obtain ⟨first, hfirst⟩ := hmid.eventually
  obtain ⟨second, hsecond⟩ := hsent.eventually
  obtain ⟨log, hsend⟩ := hsecond (max first second) (Nat.le_max_right _ _)
  exact h _ sent frame rest mid _ lapse rfl (hfirst _ (Nat.le_max_left _ _)) hsend

/-- If all frames up to one are sent, and this one fails for another reason, then it is not for lack
of time that anything fails. -/
theorem InTime.of_failed {link mid final : Link σ} {sent rest : List Bytes} {frame : Bytes}
    {error : Error} (hcarried : Carried stack link sent mid)
    (hsent : Sent stack frame mid (.error error) final)
    (herror : ∀ lapse, error ≠ .timeout lapse) : InTime stack link (sent ++ frame :: rest) := by
  intro rounds other last others state reply lapse hframes htaken hsend
  have hother := carried_of_taken htaken
  have hlast := sent_of_send hsend
  have hfailed : other = sent → last = frame → reply.result ≠ .error (.timeout lapse) := by
    rintro rfl rfl
    rw [hother.unique hcarried] at hlast
    rw [(hlast.unique hsent).1]
    exact fun heq => herror lapse (Except.error.inj heq)
  -- the sends up to the one that fails succeed, and none comes after it
  rcases List.append_eq_append_iff.mp hframes with ⟨between, rfl, hrest⟩ | ⟨between, rfl, hrest⟩
  · cases between with
    | nil =>
        obtain ⟨hframe, _⟩ := List.cons.inj hrest
        exact hfailed (List.append_nil sent) hframe.symm
    | cons next more =>
        obtain ⟨rfl, _⟩ := List.cons.inj hrest
        cases hother.result_eq_ok hcarried hsent
  · cases between with
    | nil =>
        obtain ⟨hframe, _⟩ := List.cons.inj hrest
        exact hfailed (List.append_nil other).symm hframe
    | cons next more =>
        obtain ⟨rfl, _⟩ := List.cons.inj hrest
        rw [hcarried.result_eq_ok hother hlast]
        exact fun heq => nomatch heq

/-- When one frame is out, the others are still in time. -/
theorem InTime.tail {link next : Link σ} {frame : Bytes} {rest : List Bytes}
    (h : InTime stack link (frame :: rest)) (hsent : Sent stack frame link (.ok ()) next) :
    InTime stack next rest := by
  rintro rounds sent other others mid reply lapse rfl hmid hsend
  have hall : InTime stack link ((frame :: sent) ++ other :: others) := h
  exact hall.ne_timeout (.cons hsent (carried_of_taken hmid)) (sent_of_send hsend) lapse

/-! ## Counting steps -/

/-- The steps that the frames take, one after the other. -/
def totalSteps (steps : Nat → Nat) (frames : List Bytes) : Nat :=
  (frames.map fun frame => steps frame.length).sum

/-- The steps of the first frame come on top. -/
@[simp]
theorem totalSteps_cons (steps : Nat → Nat) (frame : Bytes) (rest : List Bytes) :
    totalSteps steps (frame :: rest) = steps frame.length + totalSteps steps rest :=
  rfl

/-- Frames one after the other take the steps of both. -/
@[simp]
theorem totalSteps_append (steps : Nat → Nat) (first second : List Bytes) :
    totalSteps steps (first ++ second) = totalSteps steps first + totalSteps steps second := by
  unfold totalSteps
  rw [List.map_append, List.sum_append]

/-- How it goes with frames, of which each is handed over when the one before it is out. -/
inductive Passage (metered : stack.Metered steps reason) (link : Link σ) (meter : Meter)
    (frames : List Bytes) : Prop where
  /-- The fault, if there is one to come, falls later. -/
  | through {final after} : (∀ fuse ∈ meter.fuse, totalSteps steps frames < fuse) →
      Carried stack link frames final → metered.Shows final after →
      after.completed = meter.completed ++ frames → Passage metered link meter frames
  /-- The fault falls within the steps of one of the frames. -/
  | struck (sent frame rest) {fuse mid final after} : frames = sent ++ frame :: rest →
      meter.fuse = some fuse → totalSteps steps sent < fuse →
      fuse ≤ totalSteps steps (sent ++ [frame]) → Carried stack link sent mid →
      Sent stack frame mid (.error (.transportFault reason)) final → metered.Shows final after →
      after.completed = meter.completed ++ sent → Passage metered link meter frames

/-- There is no other way. -/
theorem passage {metered : stack.Metered steps reason} {link : Link σ} {meter : Meter}
    {frames : List Bytes} (h : metered.Shows link meter) (hfree : meter.pending = 0)
    (hfuse : ∀ fuse ∈ meter.fuse, 0 < fuse) (htime : InTime stack link frames) :
    Passage metered link meter frames := by
  -- behind the first frame the fuse is shorter by the steps of that frame
  induction frames generalizing link meter with
  | nil => exact .through hfuse (.nil link) h (List.append_nil _).symm
  | cons frame rest ih =>
      obtain ⟨result, next, after, hsent, hshows, hfate⟩ := exists_sent h hfree hfuse frame
      cases hfate with
      | @late lapse =>
          have htime : InTime stack link ([] ++ frame :: rest) := htime
          exact absurd rfl (htime.ne_timeout (.nil link) hsent lapse)
      | struck hstruck hwithin =>
          exact .struck [] frame rest rfl hstruck (hfuse _ hstruck) hwithin (.nil link) hsent hshows
            (List.append_nil _).symm
      | out hlater =>
          have hlater : ∀ fuse ∈ meter.fuse, steps frame.length < fuse := hlater
          have hahead : ∀ fuse ∈ meter.fuse.map (· - steps frame.length), 0 < fuse := by
            intro fuse hmem
            obtain ⟨before, hbefore, rfl⟩ := Option.map_eq_some_iff.mp hmem
            exact Nat.sub_pos_of_lt (hlater before hbefore)
          have hcompleted : ∀ frames, meter.completed ++ [frame] ++ frames =
              meter.completed ++ frame :: frames :=
            fun frames => List.append_assoc _ _ _
          cases ih hshows rfl hahead (htime.tail hsent) with
          | through hbeyond hcarried hfinal hout =>
              refine .through (fun fuse hmem => ?_) (.cons hsent hcarried) hfinal
                (hout.trans (hcompleted rest))
              have hrest : totalSteps steps rest < fuse - steps frame.length :=
                hbeyond _ (Option.mem_map_of_mem _ hmem)
              rw [totalSteps_cons]
              omega
          | struck sent last others hrest hstruck habove hwithin hcarried hbreak hfinal hout =>
              obtain ⟨fuse, hmem, rfl⟩ := Option.map_eq_some_iff.mp hstruck
              have habove : totalSteps steps sent < fuse - steps frame.length := habove
              have hwithin : fuse - steps frame.length ≤ totalSteps steps (sent ++ [last]) := hwithin
              refine .struck (frame :: sent) last others (by rw [hrest, List.cons_append]) hmem ?_ ?_
                (.cons hsent hcarried) hbreak hfinal (hout.trans (hcompleted sent))
              · rw [totalSteps_cons]
                omega
              · rw [List.cons_append, totalSteps_cons]
                omega

end Link

namespace Session

/-! ## An upgrade that breaks off -/

variable {τ : Type} {transport : Transport τ}

/-- Pages that are taken up to one that is not. -/
theorem exists_sendPages_of_broken {sent : List Bytes} {page : Bytes} {session : Session τ} {mid : τ}
    {reply : Reply τ Unit} {error : Error} (number : Nat) (rest : List Bytes)
    (htaken : Taken transport session.transport (sent.map dataFrame) mid)
    (hsend : transport.send mid (dataFrame page) = some reply)
    (hresult : reply.result = .error error) :
    ∃ e, (sendPages transport number (sent ++ page :: rest)).outline session = some e ∧
      e.value = .error error ∧ e.session.transport = reply.state ∧
      e.session.progress = session.progress.advanceAll sent := by
  induction sent generalizing number session with
  | nil =>
      cases htaken
      have hframe : transport.send session.transport (Request.data.encode page) = some reply :=
        hsend
      rw [List.nil_append, sendPages]
      simp only [Activity.outline_enter_bind, Activity.outline_log_bind]
      rw [Activity.outline_bind, outline_transmit]
      simp only [hframe, Option.map_some, Option.bind_some, hresult, Activity.outline_pure]
      exact ⟨_, rfl, rfl, rfl, rfl⟩
  | cons first others ih =>
      cases htaken with
      | @cons _ _ next _ _ hfirst hok hothers =>
          have hframe : transport.send session.transport (Request.data.encode first) = some next :=
            hfirst
          let following : Session τ := { session with
            transport := next.state
            phase := .streamingData number
            progress := session.progress.advance first.length }
          have hothers : Taken transport following.transport (others.map dataFrame) mid := hothers
          obtain ⟨later, hlater, hvalue, hstate, hprogress⟩ := ih (number + 1) hothers
          rw [List.cons_append, sendPages, Progress.advanceAll_cons]
          simp only [Activity.outline_enter_bind, Activity.outline_log_bind]
          rw [Activity.outline_bind, outline_transmit]
          simp only [hframe, Option.map_some, Option.bind_some, hok, Activity.outline_change_bind,
            Activity.outline_current_bind, Activity.outline_log_bind,
            Activity.outline_progress_bind]
          rw [hlater]
          exact ⟨_, rfl, hvalue, hstate, hprogress⟩

/-- An upgrade of which some frame of the transfer is not taken has an outcome, and reports the
pages before it. -/
theorem exists_upgrade_of_broken {image payload frame : Bytes} {sent rest : List Bytes}
    {session : Session τ} {mid : τ} {reply : Reply τ Unit} {error : Error}
    (himage : image.imagePayload = .ok payload)
    (hframes : transferFrames payload = sent ++ frame :: rest)
    (htaken : Taken transport session.transport sent mid)
    (hsend : transport.send mid frame = some reply) (hresult : reply.result = .error error) :
    ∃ e, upgrade transport image session = some e ∧
      e.value = .error (.abortedTransfer (sent.length - 1) (pageCount payload.length) error) ∧
      e.session.transport = reply.state := by
  obtain ⟨e, houtline, hvalue, hstate⟩ : ∃ e, (upgrade transport image).outline session = some e ∧
      e.value = .error (.abortedTransfer (sent.length - 1) (pageCount payload.length) error) ∧
      e.session.transport = reply.state := by
    unfold upgrade
    simp only [himage, outline_introduce_bind, Activity.outline_change_bind]
    rw [Activity.outline_bind, outline_announce]
    rw [transferFrames_eq] at hframes
    -- the frame that fails is the announcement or that of a page
    cases sent with
    | nil =>
        obtain ⟨rfl, _⟩ := List.cons.inj hframes
        cases htaken
        simp only [hsend, Option.map_some, Option.bind_some, hresult, outline_abort]
        exact ⟨_, rfl, rfl, rfl⟩
    | cons header others =>
        obtain ⟨rfl, hpages⟩ := List.cons.inj hframes
        obtain ⟨taken, _, hall, rfl, hlast⟩ := List.map_eq_append_iff.mp hpages
        obtain ⟨page, left, rfl, rfl, _⟩ := List.map_eq_cons_iff.mp hlast
        cases htaken with
        | @cons _ _ first _ _ hfirst hok hothers =>
            let announced : Session τ := { session with
              transport := first.state
              phase := .sendingHeader
              progress := .start (pageCount payload.length) }
            have hothers : Taken transport announced.transport (taken.map dataFrame) mid := hothers
            obtain ⟨stream, hstream, hvalue, hstate, hprogress⟩ :=
              exists_sendPages_of_broken 0 left hothers hsend hresult
            simp only [hfirst, Option.map_some, Option.bind_some, hok]
            rw [Activity.outline_bind, hall, hstream]
            simp only [Option.bind_some, hvalue, outline_abort, hprogress, Option.map_some]
            have hcount : ((Progress.start (pageCount payload.length)).advanceAll taken).pagesSent =
                (headerFrame payload :: taken.map dataFrame).length - 1 := by
              rw [List.length_cons, List.length_map, Nat.add_sub_cancel]
              exact Nat.zero_add _
            exact ⟨_, rfl, hcount ▸ rfl, hstate⟩
  obtain ⟨e, hupgrade, rfl⟩ := Option.map_eq_some_iff.mp houtline
  exact ⟨e, hupgrade, hvalue, hstate⟩

/-! ## Counting pages -/

/-- The steps up to the end of the announcement and of so many pages. -/
def transferSteps (steps : Nat → Nat) (payload : Bytes) (count : Nat) : Nat :=
  steps 28 + ((List.range count).map fun number => steps (16 + (page payload number).length)).sum

/-- More pages never take fewer steps. -/
theorem transferSteps_mono (steps : Nat → Nat) (payload : Bytes) :
    Monotone (transferSteps steps payload) := by
  refine monotone_nat_of_le_succ fun count => ?_
  unfold transferSteps
  rw [List.range_succ, List.map_append, List.sum_append]
  omega

/-- They are those of the first frames of the transfer. -/
theorem totalSteps_take (steps : Nat → Nat) {payload : Bytes} {count : Nat}
    (h : count ≤ pageCount payload.length) :
    totalSteps steps ((transferFrames payload).take (count + 1)) =
      transferSteps steps payload count := by
  have hheader : (headerFrame payload).length = 28 := by
    unfold headerFrame
    rw [Frame.length_encode, Announcement.length_encode]
    rfl
  have hpages : ∀ number, (dataFrame (page payload number)).length =
      16 + (page payload number).length := fun number => Frame.length_encode _ _
  unfold transferFrames transferSteps
  rw [List.take_succ_cons, totalSteps_cons, hheader, ← List.map_take, List.take_range,
    Nat.min_eq_left h]
  unfold totalSteps
  rw [List.map_map]
  simp only [Function.comp_def, hpages]

/-- The steps of a transfer are those up to the end of its last page. -/
theorem totalSteps_transferFrames (steps : Nat → Nat) (payload : Bytes) :
    totalSteps steps (transferFrames payload) =
      transferSteps steps payload (pageCount payload.length) := by
  rw [← totalSteps_take steps (Nat.le_refl _), List.take_of_length_le]
  rw [transferFrames, List.length_cons, List.length_map, List.length_range]

/-- If the fault falls into a frame of the transfer, the pages before it are those whose steps are
over by then. -/
theorem counts_of_struck {payload frame : Bytes} {sent rest : List Bytes} {fuse : Nat}
    (hframes : transferFrames payload = sent ++ frame :: rest)
    (habove : totalSteps steps sent < fuse)
    (hwithin : fuse ≤ totalSteps steps (sent ++ [frame])) :
    let count := Nat.findGreatest (fun count => transferSteps steps payload count < fuse)
      (pageCount payload.length)
    count = sent.length - 1 ∧
      (if transferSteps steps payload 0 < fuse then (transferFrames payload).take (count + 1)
        else []) = sent ∧
      (transferFrames payload).take (sent.length + 1) = sent ++ [frame] := by
  intro count
  have hlength : sent.length ≤ pageCount payload.length := by
    have hall := congrArg List.length hframes
    rw [transferFrames, List.length_cons, List.length_map, List.length_range, List.length_append,
      List.length_cons] at hall
    omega
  have hsent : (transferFrames payload).take sent.length = sent := by
    rw [hframes, List.take_left' rfl]
  have hframe : (transferFrames payload).take (sent.length + 1) = sent ++ [frame] := by
    rw [hframes, ← List.singleton_append, ← List.append_assoc, List.take_left' (by simp)]
  have hmono := transferSteps_mono steps payload
  rw [← hframe, totalSteps_take steps hlength] at hwithin
  -- if the announcement is out, the other frames that are out are pages
  cases hnumber : sent.length with
  | zero =>
      rw [hnumber] at hwithin
      have hcount : count = 0 := by
        refine Nat.findGreatest_eq_iff.mpr ⟨Nat.zero_le _, fun hne => absurd rfl hne, ?_⟩
        intro number _ _
        exact Nat.not_lt_of_le (hwithin.trans (hmono (Nat.zero_le number)))
      rw [if_neg (Nat.not_lt_of_le hwithin)]
      exact ⟨hcount, (List.length_eq_zero_iff.mp hnumber).symm, hnumber ▸ hframe⟩
  | succ number =>
      rw [← hsent, hnumber, totalSteps_take steps (by omega)] at habove
      rw [hnumber] at hwithin hlength
      have hcount : count = number := by
        refine Nat.findGreatest_eq_iff.mpr ⟨Nat.le_of_succ_le hlength, fun _ => habove, ?_⟩
        intro later hlater _
        exact Nat.not_lt_of_le (hwithin.trans (hmono hlater))
      rw [if_pos (Nat.lt_of_le_of_lt (hmono (Nat.zero_le number)) habove), hcount]
      exact ⟨rfl, hnumber ▸ hsent, hnumber ▸ hframe⟩

/-- The frame of the query is handed over when the device is asked, and no other. -/
theorem Asked.leads {rounds : Nat} {start : Session (Link (Recorded σ))}
    {e : Episode (Link (Recorded σ)) (Except Error (Option Bytes))}
    (h : Asked (Link.transport stack.recorded rounds) start e) :
    ∃ made, Leads stack start.transport made e.session.transport ∧ handed made = [infoFrame] := by
  cases h with
  | unsent hsend _ => exact (sent_of_send hsend).leads
  | sent hsend _ hreceive =>
      obtain ⟨first, hfirst, hframe⟩ := (sent_of_send hsend).leads
      obtain ⟨waited, hwaited, hnone, _⟩ := (awaited_of_await hreceive).leads
      refine ⟨first ++ waited, hfirst.trans hwaited, ?_⟩
      rw [handed_append, hframe, hnone]
      rfl

/-- If the frames up to one are sent and this one is not, the upgrade comes to an end there. -/
theorem eventually_aborted {session : Session (Link (Recorded σ))} {image payload frame : Bytes}
    {sent rest : List Bytes} {mid final : Link (Recorded σ)} {error : Error}
    (himage : image.imagePayload = .ok payload)
    (hframes : transferFrames payload = sent ++ frame :: rest)
    (hcarried : Carried stack.recorded session.transport sent mid)
    (hsent : Sent stack.recorded frame mid (.error error) final) :
    ∃ needed, ∀ rounds ≥ needed, ∃ e made,
      upgrade (Link.transport stack.recorded rounds) image session = some e ∧
      e.value = .error (.abortedTransfer (sent.length - 1) (pageCount payload.length) error) ∧
      e.session.transport = final ∧ Leads stack session.transport made final ∧
      handed made = sent ++ [frame] := by
  obtain ⟨first, hfirst⟩ := hcarried.eventually
  obtain ⟨second, hsecond⟩ := hsent.eventually
  refine ⟨max first second, fun rounds hrounds => ?_⟩
  have htaken := hfirst rounds (Nat.le_trans (Nat.le_max_left _ _) hrounds)
  obtain ⟨log, hsend⟩ := hsecond rounds (Nat.le_trans (Nat.le_max_right _ _) hrounds)
  obtain ⟨e, hupgrade, hvalue, hstate⟩ :=
    exists_upgrade_of_broken himage hframes htaken hsend rfl
  obtain ⟨transferred, hmid, hsame⟩ := leads_of_taken htaken
  obtain ⟨broken, hfinal, hlast⟩ := hsent.leads
  refine ⟨e, transferred ++ broken, hupgrade, hvalue, hstate, hmid.trans hfinal, ?_⟩
  rw [handed_append, hsame, hlast]

/-- If all frames of the transfer are sent, an upgrade can only end with the reset. -/
theorem completed_of_carried {rounds : Nat} {session : Session (Link (Recorded σ))}
    {payload : Bytes} {final : Link (Recorded σ)}
    {e : Episode (Link (Recorded σ)) (Except Error Unit)}
    (hcarried : Carried stack.recorded session.transport (transferFrames payload) final)
    (h : Upgraded (Link.transport stack.recorded rounds) session payload e) :
    e.session.phase = .completed ∧ ∃ made closing, Leads stack session.transport made final ∧
      Leads stack final closing e.session.transport ∧ handed made = transferFrames payload ∧
      handed closing = [infoFrame, resetFrame] := by
  -- two sends of one frame from one state end alike, so no frame of the transfer fails here
  cases h with
  | @unannounced reply error hsend hresult =>
      rw [transferFrames_eq] at hcarried
      have hok := Carried.result_eq_ok hcarried (.nil _) (sent_of_send hsend)
      rw [hresult] at hok
      cases hok
  | broken sent page rest hpages htaken hsend hresult =>
      rw [transferFrames_of_pages_eq hpages] at hcarried
      have hok := hcarried.result_eq_ok (carried_of_taken htaken) (sent_of_send hsend)
      rw [hresult] at hok
      cases hok
  | completed htaken hasked hreset =>
      rw [← transferFrames_eq] at htaken
      obtain rfl := (carried_of_taken htaken).unique hcarried
      obtain ⟨made, hmade, hframes⟩ := leads_of_taken htaken
      obtain ⟨asked, hquery, hasked⟩ := hasked.leads
      obtain ⟨last, hlast, hframe⟩ := (sent_of_send hreset).leads
      refine ⟨rfl, made, asked ++ last, hmade, hquery.trans hlast, hframes, ?_⟩
      rw [handed_append, hasked, hframe]
      rfl

/-- Over a stack on which a frame of a certain length takes a certain number of steps, an upgrade
counts the pages right wherever the fault falls. If it falls within the steps of the transfer, the
upgrade is aborted with the reason of the fault and the number of pages whose steps are over by
then; the frames out are the announcement, if its steps are over, and these pages, and only one more
frame was handed to the stack. If it falls later, or never, every frame of the transfer gets out,
and when the upgrade comes to an end it is completed and the reset was handed to the stack. -/
theorem upgrade_counts_pages (metered : stack.Metered steps reason)
    (session : Session (Link (Recorded σ))) (image : Bytes)
    (himage : Image.regionSize ≤ image.length)
    (hvalid : metered.valid session.transport.stack.inner)
    (hfree : (metered.meter session.transport.stack.inner).pending = 0)
    (htime : InTime stack.recorded session.transport
      (transferFrames (image.drop Image.regionSize))) :
    let payload := image.drop Image.regionSize
    let total := pageCount payload.length
    let start := session.transport.stack
    let before := (metered.meter start.inner).completed
    (∀ fuse, (metered.meter start.inner).fuse = some fuse → 0 < fuse →
      fuse ≤ transferSteps steps payload total →
        let sent := Nat.findGreatest (fun count => transferSteps steps payload count < fuse) total
        let out := if transferSteps steps payload 0 < fuse then
          (transferFrames payload).take (sent + 1) else []
        ∃ needed, ∀ rounds ≥ needed, ∃ e made,
          upgrade (Link.transport stack.recorded rounds) image session = some e ∧
          e.value = .error (.abortedTransfer sent total (.transportFault reason)) ∧
          (metered.meter e.session.transport.stack.inner).completed = before ++ out ∧
          e.session.transport.stack.entries = start.entries ++ made ∧
          handed made = (transferFrames payload).take (out.length + 1)) ∧
    ((∀ fuse ∈ (metered.meter start.inner).fuse, transferSteps steps payload total < fuse) →
      (∃ needed, ∀ rounds ≥ needed, ∃ final,
        Taken (Link.transport stack.recorded rounds) session.transport (transferFrames payload)
          final ∧
        (metered.meter final.stack.inner).completed = before ++ transferFrames payload) ∧
      ∀ rounds e, upgrade (Link.transport stack.recorded rounds) image session = some e →
        e.session.phase = .completed ∧
        before ++ transferFrames payload <+:
          (metered.meter e.session.transport.stack.inner).completed ∧
        ∃ made, e.session.transport.stack.entries = start.entries ++ made ∧
          handed made = transferFrames payload ++ [infoFrame, resetFrame]) := by
  intro payload total start before
  have hshows : metered.recorded.Shows session.transport (metered.meter start.inner) := ⟨hvalid, rfl⟩
  have hsteps := totalSteps_transferFrames steps payload
  constructor
  · intro fuse hfuse hpos hwithin sent out
    have hahead : ∀ fuse ∈ (metered.meter start.inner).fuse, 0 < fuse := by
      intro other hother
      rw [hfuse, Option.mem_some_iff] at hother
      exact hother ▸ hpos
    cases passage hshows hfree hahead htime with
    | through hbeyond =>
        have hlater := hbeyond fuse hfuse
        rw [hsteps] at hlater
        exact absurd hwithin (Nat.not_le_of_lt hlater)
    | @struck taken frame rest other mid final after hframes hother habove hbelow hcarried hsent
        hfinal hout =>
        rw [hfuse, Option.some.injEq] at hother
        subst hother
        obtain ⟨hcount, hall, hnext⟩ := counts_of_struck hframes habove hbelow
        have hcount : sent = taken.length - 1 := hcount
        have hall : out = taken := hall
        obtain ⟨needed, hneeded⟩ :=
          eventually_aborted (imagePayload_of_le himage) hframes hcarried hsent
        refine ⟨needed, fun rounds hrounds => ?_⟩
        obtain ⟨e, made, hupgrade, hvalue, hstate, hmade, hhanded⟩ := hneeded rounds hrounds
        refine ⟨e, made, hupgrade, ?_, ?_, ?_, ?_⟩
        · rw [hvalue, hcount]
        · rw [hall, ← hout, ← hfinal.meter_eq, hstate]
          rfl
        · rw [hstate]
          exact hmade.entries_eq
        · rw [hall, hhanded]
          exact hnext.symm
  · intro hbeyond
    cases passage hshows hfree (fun fuse hmem => Nat.zero_lt_of_lt (hbeyond fuse hmem)) htime with
    | struck taken frame rest hframes hfuse _ hbelow =>
        have hlater := hbeyond _ hfuse
        have hsplit : transferFrames payload = (taken ++ [frame]) ++ rest := by
          rw [hframes, List.append_assoc]
          rfl
        rw [← hsteps, hsplit, totalSteps_append] at hlater
        omega
    | @through final after _ hcarried hfinal hout =>
        have hcompleted : (metered.meter final.stack.inner).completed =
            before ++ transferFrames payload := by
          rw [← hout, ← hfinal.meter_eq]
          rfl
        constructor
        · obtain ⟨needed, hneeded⟩ := hcarried.eventually
          exact ⟨needed, fun rounds hrounds => ⟨final, hneeded rounds hrounds, hcompleted⟩⟩
        · intro rounds e he
          obtain ⟨hphase, made, closing, hmade, hclosing, hframes, hlast⟩ :=
            completed_of_carried hcarried (upgraded_outline himage he)
          refine ⟨hphase, ?_, made ++ closing, (hmade.trans hclosing).entries_eq, ?_⟩
          · rw [← hcompleted]
            exact metered.completed_of_calls hclosing.calls hfinal.valid
          · rw [handed_append, hframes, hlast]

open Simulation

/-- A session over a rig that sends seven bytes a step and has a fault in its seventh step. -/
def faulty : Session (Link (Recorded Rig)) :=
  new (Link.watched [] {
    stack := { Rig.quiet 1 with segment := 7, incidents := [Rig.faultAt 7 "bus off"] }
    fault := .lowered
    config := Link.Config.standard
    clock := .zero })

/-- An upgrade of one page of two bytes. Announcement and page take four steps and three, so that
the fault falls in the last step of the page. -/
theorem upgrade_counts_pages_last_step :
    let metered := Rig.metered 7 7 "bus off"
    let image : Bytes := List.replicate 14 0
    Image.regionSize ≤ image.length ∧ metered.valid faulty.transport.stack.inner ∧
    (metered.meter faulty.transport.stack.inner).pending = 0 ∧
    InTime Rig.stack.recorded faulty.transport (transferFrames (image.drop Image.regionSize)) ∧
    ∃ needed, ∀ rounds ≥ needed, ∃ e,
      upgrade (Link.transport Rig.stack.recorded rounds) image faulty = some e ∧
      e.value = .error (.abortedTransfer 0 1 (.transportFault "bus off")) ∧
      e.session.transport.stack.inner.completed = [headerFrame [0, 0]] ∧
      handed e.session.transport.stack.entries = [headerFrame [0, 0], dataFrame [0, 0]] := by
  intro metered image
  have himage : Image.regionSize ≤ image.length := by decide
  have hvalid : metered.valid faulty.transport.stack.inner := ⟨by decide, rfl, rfl⟩
  obtain ⟨first, second, hfirst, hok, hsecond, hfault⟩ : ∃ first second,
      Link.send Rig.stack.recorded 8 faulty.transport (headerFrame [0, 0]) = some first ∧
      first.result = .ok () ∧
      Link.send Rig.stack.recorded 8 first.state (dataFrame [0, 0]) = some second ∧
      second.result = .error (.transportFault "bus off") :=
    ⟨_, _, rfl, rfl, rfl, rfl⟩
  have hannounced : Carried Rig.stack.recorded faulty.transport [headerFrame [0, 0]] first.state :=
    .cons (hok ▸ sent_of_send hfirst) (.nil _)
  have hbroken : Sent Rig.stack.recorded (dataFrame [0, 0]) first.state
      (.error (.transportFault "bus off")) second.state :=
    hfault ▸ sent_of_send hsecond
  have hpayload : image.drop Image.regionSize = [0, 0] := rfl
  have hframes : transferFrames (image.drop Image.regionSize) =
      [headerFrame [0, 0]] ++ [dataFrame [0, 0]] := by
    rw [hpayload]
    rfl
  have htime : InTime Rig.stack.recorded faulty.transport
      (transferFrames (image.drop Image.regionSize)) := by
    rw [hframes]
    exact .of_failed hannounced hbroken fun _ heq => by cases heq
  obtain ⟨hstruck, _⟩ := upgrade_counts_pages metered faulty image himage hvalid rfl htime
  obtain ⟨needed, hneeded⟩ := hstruck 7 rfl (by decide) (by decide)
  refine ⟨himage, hvalid, rfl, htime, needed, fun rounds hrounds => ?_⟩
  obtain ⟨e, made, hupgrade, hvalue, hout, hentries, hhanded⟩ := hneeded rounds hrounds
  have hmade : e.session.transport.stack.entries = made := hentries
  have hpages : pageCount (image.drop Image.regionSize).length = 1 := by
    rw [hpayload]
    rfl
  have hannouncement : transferSteps (fun length => max 1 ((length + (7 - 1)) / 7))
      (image.drop Image.regionSize) 0 < 7 := by decide
  have hcounted : Nat.findGreatest
      (fun count => transferSteps (fun length => max 1 ((length + (7 - 1)) / 7))
        (image.drop Image.regionSize) count < 7) 1 = 0 := by
    decide
  rw [hpages, hcounted] at hvalue
  rw [if_pos hannouncement, hpages, hcounted, hframes] at hout hhanded
  refine ⟨e, hupgrade, hvalue, List.reverse_injective hout, ?_⟩
  rw [hmade]
  exact hhanded

end Session

end Reflash
