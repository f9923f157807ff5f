import Reflash.Proofs.Session.Run
import Reflash.Proofs.Session.Verdict

/-!
# Where a session comes to rest

On its way through an operation a session passes phases in which it waits, announces or streams.
Between operations it is in none of them: it is `AtRest`, and its phase and progress fit the last
image that it was given. `AtRest.perform` says that every operation leaves a session at rest, and
`AtRest.run` that every run does.
-/

namespace Reflash.Session

open Activity

variable {τ : Type} {transport : Transport τ}

/-- The payload that an operation sets out to bring to the device: that of an image. What is too
short to be an image has none. -/
def Operation.payload? : Operation τ → Option Bytes
  | .upgrade image =>
    if Image.regionSize ≤ image.length then some (image.drop Image.regionSize) else none
  | _ => none

/-- An image sets out to bring what is behind its header region. -/
theorem Operation.payload?_of_le {image : Bytes} (h : Image.regionSize ≤ image.length) :
    (Operation.upgrade image : Operation τ).payload? = some (image.drop Image.regionSize) :=
  if_pos h

/-- What is too short to be an image sets out to bring nothing. -/
theorem Operation.payload?_of_lt {image : Bytes} (h : image.length < Image.regionSize) :
    (Operation.upgrade image : Operation τ).payload? = none :=
  if_neg (Nat.not_le_of_lt h)

/-- The session once several turns are over. -/
def after (session : Session τ) : List (Turn τ) → Session τ
  | [] => session
  | turn :: rest => after turn.episode.session rest

/-- How a session is between operations, if the last payload that it was given is `last`. -/
inductive AtRest : Option Bytes → Session τ → Prop where
  | untouched {session} : session.phase = .idle → session.progress = .none → AtRest none session
  | completed {session payload} : session.phase = .completed →
      session.progress = .upTo payload (pageCount payload.length) → AtRest (some payload) session
  | aborted {session payload sent} : session.phase = .aborted →
      sent ≤ pageCount payload.length → session.progress = .upTo payload sent →
      AtRest (some payload) session

/-- A new session is at rest. -/
theorem atRest_new (start : τ) : AtRest none (new start) :=
  .untouched rfl rfl

/-- Only phase and progress decide whether a session is at rest. -/
theorem AtRest.of_eq {last : Option Bytes} {session other : Session τ} (h : AtRest last session)
    (hphase : other.phase = session.phase) (hprogress : other.progress = session.progress) :
    AtRest last other := by
  cases h with
  | untouched hidle hnone => exact .untouched (hphase.trans hidle) (hprogress.trans hnone)
  | completed hcompleted hall => exact .completed (hphase.trans hcompleted) (hprogress.trans hall)
  | aborted haborted hle hsent =>
      exact .aborted (hphase.trans haborted) hle (hprogress.trans hsent)

/-! ## One operation -/

/-- A query comes back to the phase in which it began, and a reset changes nothing but the
transport. -/
theorem phase_progress_of_perform {operation : Operation τ} {session : Session τ}
    {e : Episode τ Answer} (hoperation : operation ∈ [Operation.query, .reset])
    (h : perform transport operation session = some e) :
    e.session.phase = session.phase ∧ e.session.progress = session.progress := by
  have hperformed := performed_of_perform h
  show e.outline.session.phase = _ ∧ e.outline.session.progress = _
  generalize e.outline = outline at hperformed ⊢
  cases hperformed with
  | query hasked =>
      rw [hasked.session_eq]
      exact ⟨rfl, rfl⟩
  | reset => exact ⟨rfl, rfl⟩
  | refused | upgrade | configure | bypass => simp at hoperation

/-- What is too short to be an image is refused before anything happens. -/
theorem perform_upgrade_of_lt {image : Bytes} (h : image.length < Image.regionSize)
    (session : Session τ) :
    perform transport (.upgrade image) session = some {
      value := .done (.error (.invalidImage (.short image.length Image.regionSize)))
      session
      events := [] } := by
  have hrefused : upgrade transport image =
      pure (.error (.invalidImage (.short image.length Image.regionSize))) := by
    unfold upgrade
    rw [imagePayload_of_lt h]
  show (upgrade transport image >>= fun result => pure (Answer.done result)) session = _
  rw [hrefused]
  rfl

/-- However the upgrade of an image ends, the session is at rest with its payload. -/
theorem atRest_of_upgraded {session : Session τ} {payload : Bytes}
    {e : Episode τ (Except Error Unit)} (h : Upgraded transport session payload e) :
    AtRest (some payload) e.session := by
  rcases stopped_or_through_of_upgraded h with ⟨sent, _, _, hstopped⟩ | hthrough
  · -- the announcement is one of the frames that were taken, the others are pages
    have hlength := hstopped.length_sent_lt
    rw [transferFrames, List.length_cons, List.length_map, List.length_range] at hlength
    have hle : sent.length - 1 ≤ pageCount payload.length := by omega
    refine .aborted hstopped.phase_eq hle ?_
    rw [hstopped.session_eq]
  · refine .completed hthrough.phase_eq ?_
    rw [hthrough.session_eq]

/-- Every operation leaves the session at rest. -/
theorem AtRest.perform {last : Option Bytes} {session : Session τ} {operation : Operation τ}
    {e : Episode τ Answer} (hrest : AtRest last session)
    (h : perform transport operation session = some e) :
    AtRest (operation.payload?.or last) e.session := by
  have hperformed := performed_of_perform h
  show AtRest _ e.outline.session
  generalize e.outline = outline at hperformed ⊢
  cases hperformed with
  | query hasked =>
      refine hrest.of_eq rfl ?_
      rw [hasked.session_eq]
  | refused hshort =>
      rw [Operation.payload?_of_lt hshort]
      exact hrest
  | upgrade hlong hupgraded =>
      rw [Operation.payload?_of_le hlong]
      exact atRest_of_upgraded hupgraded
  | reset | configure | bypass => exact hrest.of_eq rfl rfl

/-! ## Whole runs -/

/-- What every operation keeps of a session and of the last payload that it was given, every run
keeps. -/
theorem invariant_run {P : Option Bytes → Session τ → Prop}
    (hstep : ∀ {last session operation e}, P last session →
      perform transport operation session = some e → P (operation.payload?.or last) e.session)
    {last : Option Bytes} {operations : List (Operation τ)} {session : Session τ}
    {turns : List (Turn τ)} (hstart : P last session)
    (h : run transport operations session = some turns) :
    P ((operations.filterMap Operation.payload?).getLast?.or last) (after session turns) := by
  induction operations generalizing last session turns with
  | nil =>
      cases h
      exact hstart
  | cons operation rest ih =>
      obtain ⟨episode, others, hfirst, hothers, rfl⟩ := run_cons_eq_some h
      have hlater := ih (hstep hstart hfirst) hothers
      rw [List.filterMap_cons]
      -- a payload that is given later takes the place of this one
      cases hpayload : operation.payload? with
      | none =>
          rw [hpayload] at hlater
          exact hlater
      | some payload =>
          rw [hpayload, Option.some_or] at hlater
          dsimp only
          rw [List.getLast?_cons, Option.some_or]
          cases hlast : (rest.filterMap Operation.payload?).getLast? with
          | none =>
              rw [hlast] at hlater
              exact hlater
          | some other =>
              rw [hlast] at hlater
              exact hlater

/-- Every run leaves the session at rest, with the last payload that it was given. -/
theorem AtRest.run {last : Option Bytes} {operations : List (Operation τ)} {session : Session τ}
    {turns : List (Turn τ)} (hrest : AtRest last session)
    (h : run transport operations session = some turns) :
    AtRest ((operations.filterMap Operation.payload?).getLast?.or last) (after session turns) :=
  invariant_run AtRest.perform hrest h

/-- A session is at rest untouched exactly if it was given no image. -/
theorem AtRest.phase_eq_idle_iff {last : Option Bytes} {session : Session τ}
    (h : AtRest last session) : session.phase = .idle ↔ last = none := by
  cases h with
  | untouched hphase => exact iff_of_true hphase rfl
  | completed hphase | aborted hphase =>
      rw [hphase]
      exact iff_of_false (by decide) (by simp)

/-- At rest there are three phases to be in. -/
theorem AtRest.phase_mem {last : Option Bytes} {session : Session τ} (h : AtRest last session) :
    session.phase = .idle ∨ session.phase = .completed ∨ session.phase = .aborted := by
  cases h with
  | untouched hphase => exact .inl hphase
  | completed hphase => exact .inr (.inl hphase)
  | aborted hphase => exact .inr (.inr hphase)

/-- At rest, no more pages are sent than there are. -/
theorem AtRest.pagesSent_le {last : Option Bytes} {session : Session τ} (h : AtRest last session) :
    session.progress.pagesSent ≤ session.progress.totalPages := by
  cases h with
  | untouched _ hprogress | completed _ hprogress =>
      rw [hprogress]
      exact Nat.le_refl _
  | aborted _ hle hprogress =>
      rw [hprogress]
      exact hle

/-- The progress is that of the payload, as far as it was sent. -/
theorem AtRest.progress_eq {payload : Bytes} {session : Session τ}
    (h : AtRest (some payload) session) :
    session.progress = .upTo payload session.progress.pagesSent ∧
      (session.phase = .completed →
        session.progress.pagesSent = pageCount payload.length) := by
  cases h with
  | completed _ hprogress =>
      rw [hprogress]
      exact ⟨rfl, fun _ => rfl⟩
  | aborted hphase _ hprogress =>
      rw [hprogress]
      refine ⟨rfl, fun hcompleted => ?_⟩
      rw [hphase] at hcompleted
      cases hcompleted

/-- No payload was given exactly if every upgrade was one of something too short. -/
theorem getLast?_payloads_eq_none_iff (operations : List (Operation τ)) :
    (operations.filterMap Operation.payload?).getLast? = none ↔
      ∀ image, .upgrade image ∈ operations → image.length < Image.regionSize := by
  rw [List.getLast?_eq_none_iff, List.filterMap_eq_nil_iff]
  constructor
  · intro h image himage
    have hnone := h _ himage
    refine Nat.lt_of_not_le fun hlong => ?_
    rw [Operation.payload?_of_le hlong] at hnone
    cases hnone
  · intro h operation hmem
    cases operation with
    | upgrade image => exact Operation.payload?_of_lt (h image hmem)
    | query | reset | configure | bypass => rfl

/-- After every run of operations on a new session, over any transport, the phase is one of the
three of a session at rest, and `idle` exactly as long as no image was given. Not more pages are
sent than there are; the progress is that of the last image, with everything sent if the upgrade
was completed. Queries and resets leave phase and progress alone however they end, and what is too
short to be an image is refused before anything happens. -/
theorem run_comes_to_rest (transport : Transport τ) (start : τ)
    (operations : List (Operation τ)) :
    (transport.Returns → (run transport operations (new start)).isSome) ∧
    (∀ turns, run transport operations (new start) = some turns →
      let session := after (new start) turns
      let progress := session.progress
      (session.phase = .idle ∨ session.phase = .completed ∨ session.phase = .aborted) ∧
      (session.phase = .idle ↔
        ∀ image, .upgrade image ∈ operations → image.length < Image.regionSize) ∧
      progress.pagesSent ≤ progress.totalPages ∧
      ∀ payload, (operations.filterMap Operation.payload?).getLast? = some payload →
        progress.totalPages = pageCount payload.length ∧
        progress.bytesSent = min (pageSize * progress.pagesSent) payload.length ∧
        (session.phase = .completed →
          progress.pagesSent = progress.totalPages ∧ progress.bytesSent = payload.length)) ∧
    (∀ operation ∈ [Operation.query, .reset], ∀ session e,
      perform transport operation session = some e →
        e.session.phase = session.phase ∧ e.session.progress = session.progress) ∧
    ∀ image session, image.length < Image.regionSize →
      perform transport (.upgrade image) session = some {
        value := .done (.error (.invalidImage (.short image.length Image.regionSize)))
        session
        events := [] } := by
  refine ⟨fun h => isSome_run h operations _, ?_, ?_,
    fun _ session h => perform_upgrade_of_lt h session⟩
  · intro turns hrun session progress
    have hrest := (atRest_new start).run hrun
    rw [Option.or_none] at hrest
    refine ⟨hrest.phase_mem, ?_, hrest.pagesSent_le, ?_⟩
    · rw [← getLast?_payloads_eq_none_iff]
      exact hrest.phase_eq_idle_iff
    · intro payload hpayload
      rw [hpayload] at hrest
      obtain ⟨hprogress, hcompleted⟩ := hrest.progress_eq
      have htotal : progress.totalPages = pageCount payload.length :=
        congrArg Progress.totalPages hprogress
      have hbytes : progress.bytesSent = min (pageSize * progress.pagesSent) payload.length :=
        congrArg Progress.bytesSent hprogress
      refine ⟨htotal, hbytes, fun hphase => ?_⟩
      have hsent := hcompleted hphase
      refine ⟨hsent.trans htotal.symm, ?_⟩
      rw [hbytes]
      show min (pageSize * session.progress.pagesSent) payload.length = payload.length
      rw [hsent]
      exact Progress.bytesSent_upTo_pageCount payload
  · intro operation hoperation session e he
    exact phase_progress_of_perform hoperation he

/-- A query, an upgrade of one page that the transport refuses, something that is no image, and a
reset: the session still rests with the page, of which it sent none or all. -/
theorem run_comes_to_rest_refused :
    let operations := [.query, .upgrade (List.replicate 14 0), .upgrade [1], .reset]
    let start : Simulation.Script := ⟨[none, none, some (.transportFault "bus off")], []⟩
    ∃ turns, run Simulation.Script.transport operations (new start) = some turns ∧
      (after (new start) turns).phase ≠ .idle ∧
      (after (new start) turns).progress.totalPages = 1 ∧
      (after (new start) turns).progress.pagesSent ≤ 1 ∧
      perform Simulation.Script.transport (.upgrade [1]) (new start) = some {
        value := .done (.error (.invalidImage (.short 1 12)))
        session := new start
        events := [] } := by
  intro operations start
  have hreturns : Simulation.Script.transport.Returns := ⟨fun _ _ => rfl, fun _ _ => rfl⟩
  obtain ⟨htotal, hrest, _, hrefused⟩ :=
    run_comes_to_rest Simulation.Script.transport start operations
  obtain ⟨turns, hrun⟩ := Option.isSome_iff_exists.mp (htotal hreturns)
  obtain ⟨_, hidle, hsent, hprogress⟩ := hrest turns hrun
  have hpages : (after (new start) turns).progress.totalPages = 1 :=
    (hprogress [0, 0] rfl).1
  refine ⟨turns, hrun, fun hphase => ?_, hpages, hpages ▸ hsent, hrefused [1] _ (by decide)⟩
  have hshort := hidle.mp hphase (List.replicate 14 0) (by simp [operations])
  rw [List.length_replicate] at hshort
  exact absurd hshort (by decide)

end Reflash.Session
