import Reflash.Proofs.Session.Rest

/-!
# Aborted and yet complete

An upgrade that stopped has pages left to send, so a session in the phase `aborted` should never
count as complete. There is one exception: an image without a payload has no pages, so that its
progress is complete from the start, also when its announcement was refused. `aborted_isComplete_iff`
says that there is no other, whatever happened before and whatever was done since.
-/

namespace Reflash

/-- Only an empty payload has no pages. -/
theorem pageCount_eq_zero_iff {payload : Bytes} : pageCount payload.length = 0 ↔ payload = [] := by
  rw [← List.length_eq_zero_iff]
  simp only [pageCount, pageSize]
  omega

namespace Session

open Activity

variable {τ : Type} {transport : Transport τ}

/-- What an aborted session has sent of the last payload that it was given: not all pages, unless
there are none. -/
def Unfinished (last : Option Bytes) (session : Session τ) : Prop :=
  session.phase = .aborted →
    ∃ payload sent, last = some payload ∧ session.progress = .upTo payload sent ∧
      (sent < pageCount payload.length ∨ sent = 0 ∧ payload = [])

/-- Only phase and progress decide whether a session is unfinished. -/
theorem Unfinished.of_eq {last : Option Bytes} {session other : Session τ}
    (h : Unfinished last session) (hphase : other.phase = session.phase)
    (hprogress : other.progress = session.progress) : Unfinished last other := by
  unfold Unfinished
  rw [hphase, hprogress]
  exact h

/-- An upgrade stops before its last page, or at the announcement. -/
theorem unfinished_of_upgraded {session : Session τ} {payload : Bytes}
    {e : Episode τ (Except Error Unit)} (h : Upgraded transport session payload e) :
    Unfinished (some payload) e.session := by
  intro hphase
  rcases stopped_or_through_of_upgraded h with ⟨sent, _, _, hstopped⟩ | hthrough
  · have hlength := hstopped.length_sent_lt
    rw [transferFrames, List.length_cons, List.length_map, List.length_range] at hlength
    refine ⟨payload, sent.length - 1, rfl, by rw [hstopped.session_eq], ?_⟩
    rcases Nat.eq_zero_or_pos (pageCount payload.length) with hnone | hsome
    · exact .inr ⟨by omega, pageCount_eq_zero_iff.mp hnone⟩
    · exact .inl (by omega)
  · rw [hthrough.phase_eq] at hphase
    cases hphase

/-- Every operation keeps account of what an aborted session has sent. -/
theorem Unfinished.perform {last : Option Bytes} {session : Session τ} {operation : Operation τ}
    {e : Episode τ Answer} (hlast : Unfinished last session)
    (h : perform transport operation session = some e) :
    Unfinished (operation.payload?.or last) e.session := by
  have hperformed := performed_of_perform h
  show Unfinished _ e.outline.session
  generalize e.outline = outline at hperformed ⊢
  cases hperformed with
  | query hasked =>
      refine hlast.of_eq rfl ?_
      rw [hasked.session_eq]
  | refused hshort =>
      rw [Operation.payload?_of_lt hshort]
      exact hlast
  | upgrade hlong hupgraded =>
      rw [Operation.payload?_of_le hlong]
      exact unfinished_of_upgraded hupgraded
  | reset | configure | bypass => exact hlast.of_eq rfl rfl

/-- Whenever a session is aborted, after any operations on it over any transport, its progress is
that of the last image that it was given, and is complete exactly if that image has no payload at
all. Otherwise there are pages left to send. -/
theorem aborted_isComplete_iff {start : τ} {operations : List (Operation τ)}
    {turns : List (Turn τ)} (hrun : run transport operations (new start) = some turns)
    (hphase : (after (new start) turns).phase = .aborted) :
    let progress := (after (new start) turns).progress
    ∃ payload, (operations.filterMap Operation.payload?).getLast? = some payload ∧
      progress.totalPages = pageCount payload.length ∧
      (progress.isComplete = true ↔ payload = []) ∧
      (progress.pagesSent < progress.totalPages ↔ payload ≠ []) := by
  intro progress
  have hnew : Unfinished none (new start) := fun hidle => by cases hidle
  have hafter := invariant_run Unfinished.perform hnew hrun
  rw [Option.or_none] at hafter
  obtain ⟨payload, sent, hlast, hprogress, hsent⟩ := hafter hphase
  have hpages : progress.pagesSent = sent := congrArg Progress.pagesSent hprogress
  have htotal : progress.totalPages = pageCount payload.length :=
    congrArg Progress.totalPages hprogress
  refine ⟨payload, hlast, htotal, ?_, ?_⟩
  · rw [← pageCount_eq_zero_iff]
    show decide (progress.pagesSent = progress.totalPages) = true ↔ _
    rw [decide_eq_true_iff, hpages, htotal]
    -- all pages are out although it was aborted only where there are none
    rcases hsent with hleft | ⟨rfl, hempty⟩
    · omega
    · exact eq_comm
  · rw [ne_eq, ← pageCount_eq_zero_iff, hpages, htotal]
    rcases hsent with hleft | ⟨rfl, hempty⟩
    · omega
    · exact Nat.pos_iff_ne_zero

/-- An upgrade of one page that the transport refuses, and a query after it. -/
theorem aborted_isComplete_iff_refused :
    let operations := [.upgrade (List.replicate 14 0), .query]
    let start : Simulation.Script := ⟨[none, some (.transportFault "bus off")], []⟩
    ∃ turns, run Simulation.Script.transport operations (new start) = some turns ∧
      (after (new start) turns).phase = .aborted ∧
      (after (new start) turns).progress.pagesSent <
        (after (new start) turns).progress.totalPages := by
  intro operations start
  have hphases : (run Simulation.Script.transport operations (new start)).map
      (fun turns => (after (new start) turns).phase) = some .aborted := by
    decide +kernel
  obtain ⟨turns, hrun, hphase⟩ := Option.map_eq_some_iff.mp hphases
  obtain ⟨payload, hlast, _, _, hleft⟩ := aborted_isComplete_iff hrun hphase
  have hpayload : some [0, 0] = some payload := hlast
  rw [Option.some.injEq] at hpayload
  exact ⟨turns, hrun, hphase, hleft.mpr (hpayload ▸ List.cons_ne_nil _ _)⟩

/-- An upgrade of an image that is nothing but a header region, whose announcement the transport
refuses, leaves the session aborted and complete. -/
theorem aborted_though_complete :
    let operations := [.upgrade (List.replicate 12 0)]
    let start : Simulation.Script := ⟨[some (.transportFault "bus off")], []⟩
    ∃ turns, run Simulation.Script.transport operations (new start) = some turns ∧
      (after (new start) turns).phase = .aborted ∧
      (after (new start) turns).progress.isComplete = true ∧
      ¬ (after (new start) turns).progress.pagesSent <
        (after (new start) turns).progress.totalPages :=
  ⟨_, rfl, rfl, rfl, Nat.lt_irrefl 0⟩

end Session

end Reflash
