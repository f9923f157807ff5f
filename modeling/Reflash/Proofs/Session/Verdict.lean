import Reflash.Proofs.Session.Order

/-!
# What an upgrade says about itself

Whoever runs an upgrade learns of it by the result, by the progress reported on the way and by the
session afterwards. There are two ways to end. An upgrade that was `Stopped` says how many pages
are out and passes on the error that stopped it; one that came `Through` gives the result of the
reset, and the session remembers what the query found out. `stopped_or_through` says that all
these tell the same story, and the two theorems at the end put it in terms of the sends alone.
-/

namespace Reflash

/-- The progress of an upgrade once the first `sent` pages of the payload are out. -/
def Progress.upTo (payload : Bytes) (sent : Nat) : Progress where
  pagesSent := sent
  totalPages := pageCount payload.length
  bytesSent := min (pageSize * sent) payload.length

/-- Counting the first pages one by one leads to the same progress. -/
theorem Progress.advanceAll_start {payload : Bytes} {sent : List Bytes}
    (h : sent <+: pages payload) :
    (Progress.start (pageCount payload.length)).advanceAll sent = .upTo payload sent.length := by
  unfold start advanceAll upTo
  simp only [Nat.zero_add, length_flatten_of_prefix h]

/-- All pages hold all bytes. -/
theorem Progress.bytesSent_upTo_pageCount (payload : Bytes) :
    (Progress.upTo payload (pageCount payload.length)).bytesSent = payload.length := by
  show min (pageSize * pageCount payload.length) payload.length = payload.length
  apply Nat.min_eq_right
  simp only [pageCount, pageSize]
  omega

/-- The transport has no aborted transfers of its own to report. -/
def Transport.NeverAborts {τ : Type} (transport : Transport τ) : Prop :=
  ∀ state frame reply sent total source, transport.send state frame = some reply →
    reply.result ≠ .error (.abortedTransfer sent total source)

namespace Session

variable {τ : Type} {transport : Transport τ}

/-! ## Reports and readings -/

/-- Pages that are all taken are counted one by one. -/
theorem reports_pageEvents (total sent : Nat) (pages : List Bytes) :
    reports (pageEvents total sent pages) =
      (List.range' (sent + 1) pages.length).map fun number => (number, total) := by
  induction pages generalizing sent with
  | nil => rfl
  | cons page rest ih =>
      show (sent + 1, total) :: reports (pageEvents total (sent + 1) rest) = _
      rw [ih, List.length_cons, List.range'_succ, List.map_cons]

/-- Before anything else, the pages are reported. -/
theorem reports_transfer (payload : Bytes) (total : Nat) (sent : List Bytes) (later : List Event) :
    reports (.send (headerFrame payload) (.ok ()) :: (pageEvents total 0 sent ++ later)) =
      ((List.range' 1 sent.length).map fun number => (number, total)) ++ reports later := by
  show reports (_ ++ _) = _
  rw [reports_append, reports_pageEvents]

/-- An error that came in place of a response leaves nothing to remember, whatever its kind. -/
theorem remembered_reading_error (error : Error) : remembered (reading (.error error)) = none := by
  show remembered (if error.isLinkFailure then .ok none else .error error) = none
  split
  · rfl
  · rfl

/-- Only a response that holds a record leaves something to remember. -/
theorem remembered_reading_eq_some {response : Except Error (Option Bytes)} {info : DeviceInfo} :
    remembered (reading response) = some info ↔
      ∃ data, response = .ok (some data) ∧ DeviceInfo.decode data = .ok info := by
  constructor
  · intro h
    match response with
    | .ok (some data) =>
      refine ⟨data, rfl, ?_⟩
      change remembered ((DeviceInfo.decode data).map some) = some info at h
      cases hdecode : DeviceInfo.decode data with
      | error =>
          rw [hdecode] at h
          cases h
      | ok =>
          rw [hdecode] at h
          cases h
          rfl
    | .ok none => cases h
    | .error error =>
      rw [remembered_reading_error] at h
      cases h
  · rintro ⟨data, rfl, hdecode⟩
    show remembered ((DeviceInfo.decode data).map some) = some info
    rw [hdecode]
    rfl

section Asked

variable {start : Session τ} {e : Episode τ (Except Error (Option Bytes))}

/-- Asking leaves the session as it was. -/
theorem Asked.session_eq (h : Asked transport start e) :
    e.session = { start with transport := e.session.transport } := by
  cases h with
  | unsent => rfl
  | sent => rfl

/-- Whoever asks reports no progress. -/
theorem Asked.reports_eq (h : Asked transport start e) : reports e.events = [] := by
  cases h with
  | unsent => rfl
  | sent => rfl

/-- What comes back was waited for. -/
theorem Asked.value_eq_iff (h : Asked transport start e) {data : Bytes} :
    e.value = .ok (some data) ↔
      waits e.events = [(start.config.responseTimeout, .ok (some data))] := by
  cases h with
  | unsent =>
      refine iff_of_false ?_ ?_
      · intro h
        cases h
      · intro h
        cases h
  | @sent reply response =>
      show _ ↔ [(start.config.responseTimeout, response.result)] = _
      simp only [List.cons.injEq, Prod.mk.injEq, and_true, true_and]

end Asked

/-! ## The two ways to end -/

/-- The upgrade stopped at a frame of the transfer: those before it were taken, its own send gave
an error. All but the first of the frames before it are pages. -/
structure Stopped (start : Session τ) (payload : Bytes) (sent : List Bytes) (frame : Bytes)
    (error : Error) (e : Episode τ (Except Error Unit)) : Prop where
  frames_within : sent ++ [frame] <+: transferFrames payload
  attempts_eq : attempts e.events = sent.map taken ++ [(frame, .error error)]
  value_eq : e.value = .error (.abortedTransfer (sent.length - 1) (pageCount payload.length) error)
  session_eq : e.session = { start with
    transport := e.session.transport
    phase := .aborted
    progress := .upTo payload (sent.length - 1) }
  reports_eq : reports e.events =
    (List.range' 1 (sent.length - 1)).map fun number => (number, pageCount payload.length)

/-- The upgrade came through the whole transfer and ended with the reset. -/
structure Through (transport : Transport τ) (start : Session τ) (payload : Bytes)
    (e : Episode τ (Except Error Unit)) : Prop where
  attempts_eq : ∃ asked, attempts e.events =
    (transferFrames payload).map taken ++ [(infoFrame, asked), (resetFrame, e.value)]
  value_sent : ∃ state reply, transport.send state resetFrame = some reply ∧
    reply.result = e.value
  session_eq : e.session = { start with
    transport := e.session.transport
    phase := .completed
    progress := .upTo payload (pageCount payload.length)
    deviceInfo := e.session.deviceInfo }
  reports_eq : reports e.events =
    (List.range' 1 (pageCount payload.length)).map fun number => (number, pageCount payload.length)
  deviceInfo_iff : ∀ info, e.session.deviceInfo = some info ↔
    ∃ data, waits e.events = [(start.config.responseTimeout, .ok (some data))] ∧
      DeviceInfo.decode data = .ok info

section Upgraded

variable {start : Session τ} {payload : Bytes} {e : Episode τ (Except Error Unit)}

/-- However an upgrade ends, what it says fits what it handed over. -/
theorem stopped_or_through_of_upgraded (h : Upgraded transport start payload e) :
    (∃ sent frame error, Stopped start payload sent frame error e) ∨
      Through transport start payload e := by
  cases h with
  | @unannounced reply error hsend hresult =>
      refine .inl ⟨[], headerFrame payload, error, ?_⟩
      exact {
        frames_within := by
          rw [transferFrames_eq]
          exact List.prefix_append [headerFrame payload] _
        attempts_eq := rfl
        value_eq := rfl
        session_eq := by
          have hstart : Progress.start (pageCount payload.length) = .upTo payload 0 :=
            Progress.advanceAll_start List.nil_prefix
          rw [hstart]
          rfl
        reports_eq := rfl }
  | @broken sent page rest mid reply error hpages htaken hsend hresult =>
      have hinitial : sent <+: pages payload := ⟨_, hpages.symm⟩
      have hcount : (headerFrame payload :: sent.map dataFrame).length - 1 = sent.length := by
        rw [List.length_cons, List.length_map, Nat.add_sub_cancel]
      refine .inl ⟨headerFrame payload :: sent.map dataFrame, dataFrame page, error, ?_⟩
      exact {
        frames_within := by
          rw [transferFrames_of_pages_eq hpages, List.prefix_append_right_inj]
          exact List.prefix_append [dataFrame page] _
        attempts_eq := attempts_transfer _ _ _ _
        value_eq := by rw [hcount]
        session_eq := by rw [hcount, Progress.advanceAll_start hinitial]
        reports_eq := by
          rw [reports_transfer, hcount]
          exact List.append_nil _ }
  | @completed mid query reply htaken hasked hsend =>
      have hsession := hasked.session_eq
      obtain ⟨asked, hattempts⟩ := attempts_of_asked hasked
      right
      exact {
        attempts_eq := by
          refine ⟨asked, ?_⟩
          rw [attempts_transfer, attempts_append, hattempts, ← transferFrames_eq]
          rfl
        value_sent := ⟨_, reply, hsend, rfl⟩
        session_eq := by
          rw [hsession, Progress.advanceAll_start List.prefix_rfl, length_pages]
        reports_eq := by
          rw [reports_transfer, reports_append, hasked.reports_eq, length_pages]
          exact List.append_nil _
        deviceInfo_iff := by
          intro info
          -- the reset waits for nothing, so the query waited first and alone
          have hlast : waits [.send resetFrame reply.result] = [] := rfl
          rw [waits_transfer, waits_append, hlast, List.append_nil]
          refine remembered_reading_eq_some.trans (exists_congr fun data => ?_)
          rw [hasked.value_eq_iff] }

end Upgraded

/-- An upgrade of an image either stopped at a frame of the transfer or came through. -/
theorem stopped_or_through {session : Session τ} {image : Bytes}
    (himage : Image.regionSize ≤ image.length) {e : Episode τ (Except Error Unit)}
    (h : upgrade transport image session = some e) :
    (∃ sent frame error, Stopped session (image.drop Image.regionSize) sent frame error e) ∨
      Through transport session (image.drop Image.regionSize) e := by
  -- the outline says the same about itself as the upgrade does
  rcases stopped_or_through_of_upgraded (upgraded_outline himage h) with ⟨sent, frame, error, hstopped⟩ | hthrough
  · left
    obtain ⟨hinitial, hattempts, hvalue, hsession, hreports⟩ := hstopped
    simp only [Episode.outline, attempts_traffic, reports_traffic] at hattempts hreports
    exact ⟨sent, frame, error, hinitial, hattempts, hvalue, hsession, hreports⟩
  · right
    obtain ⟨hattempts, hvalue, hsession, hreports, hinfo⟩ := hthrough
    simp only [Episode.outline, attempts_traffic, reports_traffic, waits_traffic]
      at hattempts hreports hinfo
    exact ⟨hattempts, hvalue, hsession, hreports, hinfo⟩

section Ends

variable {start : Session τ} {payload : Bytes} {sent : List Bytes} {frame : Bytes} {error : Error}
  {e : Episode τ (Except Error Unit)}

/-- An upgrade that stopped is aborted. -/
theorem Stopped.phase_eq (h : Stopped start payload sent frame error e) :
    e.session.phase = .aborted := by
  rw [h.session_eq]

/-- An upgrade that came through is completed. -/
theorem Through.phase_eq (h : Through transport start payload e) :
    e.session.phase = .completed := by
  rw [h.session_eq]

/-- What was taken before the upgrade stopped is the beginning of the transfer. -/
theorem Stopped.sent_eq_take (h : Stopped start payload sent frame error e) :
    sent = (transferFrames payload).take sent.length :=
  List.prefix_iff_eq_take.mp ((List.prefix_append sent [frame]).trans h.frames_within)

/-- The upgrade stopped within the transfer. -/
theorem Stopped.length_sent_lt (h : Stopped start payload sent frame error e) :
    sent.length < (transferFrames payload).length := by
  have hlength := h.frames_within.length_le
  rwa [List.length_append, List.length_singleton] at hlength

/-- The attempt at which the upgrade stopped. -/
theorem Stopped.getElem?_attempts (h : Stopped start payload sent frame error e) :
    (attempts e.events)[sent.length]? = some (frame, .error error) := by
  rw [h.attempts_eq, List.getElem?_append_right (by simp), List.length_map,
    Nat.sub_self]
  rfl

/-- No other attempt failed. -/
theorem Stopped.eq_of_failed (h : Stopped start payload sent frame error e) {i : Nat}
    {other : Bytes} {cause : Error}
    (hfailed : (attempts e.events)[i]? = some (other, .error cause)) :
    i = sent.length ∧ other = frame ∧ cause = error := by
  rw [h.attempts_eq] at hfailed
  rcases Nat.lt_or_ge i sent.length with hbefore | hlast
  · rw [List.getElem?_append_left (by rwa [List.length_map]), List.getElem?_map] at hfailed
    obtain ⟨first, _, htaken⟩ := Option.map_eq_some_iff.mp hfailed
    cases htaken
  · rw [List.getElem?_append_right (by rwa [List.length_map]), List.length_map,
      List.getElem?_singleton] at hfailed
    split at hfailed
    · cases hfailed
      exact ⟨by omega, rfl, rfl⟩
    · cases hfailed

/-- An upgrade that stopped did not come to the reset. -/
theorem Stopped.resetFrame_not_mem (h : Stopped start payload sent frame error e) :
    resetFrame ∉ (attempts e.events).map Prod.fst := by
  intro hmem
  rw [h.attempts_eq, List.map_append, map_fst_map_taken] at hmem
  exact not_mem_transferFrames (by simp) (h.frames_within.subset hmem)

/-- An upgrade that came through handed over the reset. -/
theorem Through.resetFrame_mem (h : Through transport start payload e) :
    resetFrame ∈ (attempts e.events).map Prod.fst := by
  obtain ⟨asked, hattempts⟩ := h.attempts_eq
  rw [hattempts]
  simp

/-- No attempt of the transfer failed in an upgrade that came through. -/
theorem Through.ne_failed (h : Through transport start payload e) {i : Nat}
    (hi : i < (transferFrames payload).length) {other : Bytes} {cause : Error} :
    (attempts e.events)[i]? ≠ some (other, .error cause) := by
  intro hfailed
  obtain ⟨asked, hattempts⟩ := h.attempts_eq
  rw [hattempts, List.getElem?_append_left (by rwa [List.length_map]),
    List.getElem?_map] at hfailed
  obtain ⟨first, _, htaken⟩ := Option.map_eq_some_iff.mp hfailed
  cases htaken

end Ends

/-! ## The result, the reports and the session -/

/-- The report of an upgrade that stops is exact. If the send of frame number `i` of the transfer
gives an error, of whatever kind, then all frames before it were taken, of which all but the
announcement are pages. The result holds the number of these pages, the number of all pages and the
error as it came. Progress was reported once for each page taken, and apart from the transport
only phase and progress of the session have changed. The sends are those on the transport. -/
theorem upgrade_reports_abort (transport : Transport τ) (session : Session τ) (image : Bytes)
    (himage : Image.regionSize ≤ image.length) :
    (transport.Returns → (upgrade transport image session).isSome) ∧
    ∀ e, upgrade transport image session = some e →
      let payload := image.drop Image.regionSize
      let total := pageCount payload.length
      let sends := attempts e.events
      e.IsDialogue transport session ∧
      ∀ (i : Nat) (frame : Bytes) (error : Error), i < (transferFrames payload).length →
        sends[i]? = some (frame, .error error) →
        let sent := i - 1
        sends = ((transferFrames payload).take i).map taken ++ [(frame, .error error)] ∧
        e.value = .error (.abortedTransfer sent total error) ∧
        e.session = { session with
          transport := e.session.transport
          phase := .aborted
          progress := {
            pagesSent := sent
            totalPages := total
            bytesSent := min (pageSize * sent) payload.length } } ∧
        reports e.events = (List.range' 1 sent).map fun number => (number, total) := by
  refine ⟨fun h => total_upgrade h image session, ?_⟩
  intro e he payload total sends
  refine ⟨dialogue_of_upgrade himage he, ?_⟩
  intro i frame error hi hfailed
  rcases stopped_or_through himage he with ⟨sent, last, cause, hstopped⟩ | hthrough
  · obtain ⟨rfl, rfl, rfl⟩ := hstopped.eq_of_failed hfailed
    refine ⟨?_, hstopped.value_eq, hstopped.session_eq, hstopped.reports_eq⟩
    rw [← hstopped.sent_eq_take]
    exact hstopped.attempts_eq
  · exact absurd hfailed (hthrough.ne_failed hi)

/-- An upgrade of two pages, of which the second meets a timeout. -/
theorem upgrade_reports_abort_second_page :
    let image : Bytes := List.replicate 2000 0
    let error : Error := .timeout (.reported "no flow control")
    Image.regionSize ≤ image.length ∧
    ∃ e frame, upgrade Simulation.Script.transport image (new ⟨[none, none, some error], []⟩) =
        some e ∧
      (attempts e.events)[2]? = some (frame, .error error) ∧
      e.value = .error (.abortedTransfer 1 2 error) ∧
      e.session.progress = { pagesSent := 1, totalPages := 2, bytesSent := 1024 } ∧
      reports e.events = [(1, 2)] := by
  intro image error
  have himage : Image.regionSize ≤ image.length := by
    rw [List.length_replicate]
    decide
  have hresults : (upgrade Simulation.Script.transport image
      (new ⟨[none, none, some error], []⟩)).map (fun e => (attempts e.events).map Prod.snd) =
      some [.ok (), .ok (), .error error] := by
    decide +kernel
  obtain ⟨e, he, hsends⟩ := Option.map_eq_some_iff.mp hresults
  have hthird := congrArg (fun results => results[2]?) hsends
  rw [List.getElem?_map] at hthird
  obtain ⟨⟨frame, _⟩, hfailed, rfl⟩ := Option.map_eq_some_iff.mp hthird
  have hpayload : (image.drop Image.regionSize).length = 1988 := by
    rw [List.length_drop, List.length_replicate]
    rfl
  have hframes : 2 < (transferFrames (image.drop Image.regionSize)).length := by
    rw [transferFrames, List.length_cons, List.length_map, List.length_range, hpayload]
    decide
  obtain ⟨_, hvalue, hsession, hreports⟩ := (upgrade_reports_abort Simulation.Script.transport
    (new ⟨[none, none, some error], []⟩) image himage).2 e he |>.2 2 frame error hframes hfailed
  rw [hpayload] at hvalue hsession hreports
  refine ⟨himage, e, frame, he, hfailed, hvalue, ?_, hreports⟩
  rw [hsession]
  rfl

/-- Once every page is out, only the reset decides the result. If no send of the transfer fails,
then the result is that of the send of the reset, the progress is complete and was reported once
for each page, and the session remembers the record in the response to the query, or nothing if
there was none. So an upgrade reports an aborted transfer exactly if it did not come to the reset,
unless the transport has such a report of its own. Sends and waits are those on the transport. -/
theorem upgrade_decided_by_reset (transport : Transport τ) (session : Session τ) (image : Bytes)
    (himage : Image.regionSize ≤ image.length) :
    (transport.Returns → (upgrade transport image session).isSome) ∧
    ∀ e, upgrade transport image session = some e →
      let payload := image.drop Image.regionSize
      let total := pageCount payload.length
      let sends := attempts e.events
      e.IsDialogue transport session ∧
      ((∀ (i : Nat) (hi : i < sends.length), i < (transferFrames payload).length →
          sends[i].2 = .ok ()) →
        (∃ asked, sends =
          (transferFrames payload).map taken ++ [(infoFrame, asked), (resetFrame, e.value)]) ∧
        e.session = { session with
          transport := e.session.transport
          phase := .completed
          progress := { pagesSent := total, totalPages := total, bytesSent := payload.length }
          deviceInfo := e.session.deviceInfo } ∧
        e.session.progress.isComplete ∧
        (reports e.events = (List.range' 1 total).map fun number => (number, total)) ∧
        ∀ info, e.session.deviceInfo = some info ↔
          ∃ data, waits e.events = [(session.config.responseTimeout, .ok (some data))] ∧
            DeviceInfo.decode data = .ok info) ∧
      (transport.NeverAborts →
        ((∃ sent total source, e.value = .error (.abortedTransfer sent total source)) ↔
          e.session.phase = .aborted)) ∧
      (e.session.phase = .aborted ↔ resetFrame ∉ sends.map Prod.fst) := by
  refine ⟨fun h => total_upgrade h image session, ?_⟩
  intro e he payload total sends
  refine ⟨dialogue_of_upgrade himage he, ?_⟩
  rcases stopped_or_through himage he with ⟨sent, last, cause, hstopped⟩ | hthrough
  · refine ⟨fun htaken => ?_, fun _ => ?_, ?_⟩
    · -- the send that stopped the upgrade was one of the transfer
      obtain ⟨hlength, hlast⟩ := List.getElem?_eq_some_iff.mp hstopped.getElem?_attempts
      have hresult := htaken sent.length hlength hstopped.length_sent_lt
      rw [hlast] at hresult
      cases hresult
    · exact iff_of_true ⟨_, _, _, hstopped.value_eq⟩ hstopped.phase_eq
    · exact iff_of_true hstopped.phase_eq hstopped.resetFrame_not_mem
  · have hphase : e.session.phase ≠ .aborted := by
      rw [hthrough.phase_eq]
      decide
    refine ⟨fun _ => ?_, fun hnever => ?_, ?_⟩
    · have hprogress : Progress.upTo payload total =
          { pagesSent := total, totalPages := total, bytesSent := payload.length } := by
        rw [← Progress.bytesSent_upTo_pageCount payload]
        rfl
      have hsession := hthrough.session_eq
      rw [hprogress] at hsession
      refine ⟨hthrough.attempts_eq, hsession, ?_, hthrough.reports_eq, hthrough.deviceInfo_iff⟩
      rw [hsession]
      exact decide_eq_true rfl
    · refine iff_of_false ?_ hphase
      rintro ⟨sent, total, source, hvalue⟩
      obtain ⟨state, reply, hsend, hresult⟩ := hthrough.value_sent
      exact hnever state resetFrame reply sent total source hsend (hresult.trans hvalue)
    · exact iff_of_false hphase fun habsent => habsent hthrough.resetFrame_mem

/-- An upgrade of one page over a transport that takes three frames and refuses the fourth, the
reset. The device has answered the query, and its record is remembered. -/
theorem upgrade_decided_by_reset_refused :
    let transport : Transport Nat := {
      send := fun count _ => some {
        result := if count < 3 then .ok () else .error (.transportFault "bus off")
        state := count + 1
        log := [] }
      receive := fun count _ => some {
        result := .ok (some (List.replicate DeviceInfo.size 0))
        state := count
        log := [] } }
    let image : Bytes := List.replicate 14 0
    Image.regionSize ≤ image.length ∧ transport.NeverAborts ∧
    ∃ e, upgrade transport image (new 0) = some e ∧
      e.value = .error (.transportFault "bus off") ∧
      e.session.phase ≠ .aborted ∧ e.session.progress.isComplete ∧
      reports e.events = [(1, 1)] ∧ resetFrame ∈ (attempts e.events).map Prod.fst ∧
      ∃ info, e.session.deviceInfo = some info := by
  intro transport image
  have himage : Image.regionSize ≤ image.length := by
    rw [List.length_replicate]
    decide
  have hnever : transport.NeverAborts := by
    intro count frame reply sent total source hsend
    cases hsend
    show (if count < 3 then _ else _) ≠ _
    split
    · intro h
      cases h
    · intro h
      cases h
  have hresults : (upgrade transport image (new 0)).map
      (fun e => (attempts e.events).map Prod.snd) =
      some [.ok (), .ok (), .ok (), .error (.transportFault "bus off")] := by
    decide +kernel
  have hwaits : (upgrade transport image (new 0)).map (fun e => waits e.events) =
      some [(Config.standard.responseTimeout, .ok (some (List.replicate DeviceInfo.size 0)))] := by
    decide +kernel
  obtain ⟨e, he, hresults⟩ := Option.map_eq_some_iff.mp hresults
  rw [he, Option.map_some, Option.some.injEq] at hwaits
  have hcount : pageCount (image.drop Image.regionSize).length = 1 := by
    rw [List.length_drop, List.length_replicate]
    rfl
  have htaken : ∀ (i : Nat) (hi : i < (attempts e.events).length),
      i < (transferFrames (image.drop Image.regionSize)).length →
        (attempts e.events)[i].2 = .ok () := by
    intro i hi htransfer
    rw [transferFrames, List.length_cons, List.length_map, List.length_range, hcount] at htransfer
    have hi : i < ((attempts e.events).map Prod.snd).length := by rwa [List.length_map]
    rw [← List.getElem_map Prod.snd (h := hi), List.getElem_of_eq hresults hi]
    match i with
    | 0 => rfl
    | 1 => rfl
  obtain ⟨_, hthrough, haborted, hreset⟩ :=
    (upgrade_decided_by_reset transport (new 0) image himage).2 e he
  obtain ⟨⟨asked, hattempts⟩, _, hcomplete, hreports, hinfo⟩ := hthrough htaken
  have hvalue : e.value = .error (.transportFault "bus off") := by
    have hlast := congrArg List.getLast? hresults
    rw [hattempts, List.map_append, List.getLast?_append] at hlast
    exact Option.some.inj hlast
  have hphase : e.session.phase ≠ .aborted := by
    rw [ne_eq, ← haborted hnever, hvalue]
    rintro ⟨_, _, _, h⟩
    cases h
  have hmem : resetFrame ∈ (attempts e.events).map Prod.fst :=
    Decidable.not_not.mp (mt hreset.mpr hphase)
  have hdecode : DeviceInfo.decode (List.replicate DeviceInfo.size 0) = .ok {
      version := ""
      hardwareRevision := 0
      name := ""
      deviceId := "000"
      id := ⟨0, 0, 0⟩
      gitSha := "" } := by
    decide +kernel
  rw [hcount] at hreports
  exact ⟨himage, hnever, e, he, hvalue, hphase, hcomplete, hreports, hmem, _,
    (hinfo _).mpr ⟨_, hwaits, hdecode⟩⟩

end Session

end Reflash
