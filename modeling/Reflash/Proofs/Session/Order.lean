import Reflash.Proofs.Frame.Codec
import Reflash.Proofs.Session.Dialogue
import Reflash.Proofs.Session.Pages
import Reflash.Proofs.Session.Totality
import Reflash.Simulation.Script

/-!
# The order of the frames of an upgrade

A device must not be reset before it has the whole image. `transferFrames` are the frames that
bring it there: the announcement and the pages, in order. An upgrade hands over these frames one
by one and stops at the first that fails; only when all of them were taken does it ask for the
information record and reset the device. `upgrade_frames_in_order` states this for every transport
and for every way in which its calls may fail.
-/

namespace Reflash.Session

/-- The frames that a device needs before it may be reset: the announcement, then each page. -/
def transferFrames (payload : Bytes) : List Bytes :=
  headerFrame payload ::
    (List.range (pageCount payload.length)).map fun number => dataFrame (page payload number)

/-- A frame that was handed to the transport and taken. -/
def taken (frame : Bytes) : Bytes × Except Error Unit := (frame, .ok ())

/-- The attempts start with all frames of the transfer, and all of these were taken. -/
def Transferred (payload : Bytes) (sends : List (Bytes × Except Error Unit)) : Prop :=
  (transferFrames payload).map taken <+: sends

/-- The transfer is the announcement and then the pages, each in its frame. -/
theorem transferFrames_eq (payload : Bytes) :
    transferFrames payload = headerFrame payload :: (pages payload).map dataFrame := by
  unfold transferFrames
  rw [pages_eq_map_range, List.map_map]
  rfl

/-- Where the pages are cut, the transfer is cut. -/
theorem transferFrames_of_pages_eq {payload page : Bytes} {sent rest : List Bytes}
    (h : pages payload = sent ++ page :: rest) :
    transferFrames payload =
      (headerFrame payload :: sent.map dataFrame) ++ dataFrame page :: rest.map dataFrame := by
  rw [transferFrames_eq, h, List.map_append]
  rfl

/-- A frame of the transfer announces or carries a page, and is short. -/
theorem request_of_mem_transferFrames {payload frame : Bytes}
    (h : frame ∈ transferFrames payload) :
    ∃ request data, frame = Request.encode request data ∧ data.length ≤ pageSize ∧
      (request = .header ∨ request = .data) := by
  rw [transferFrames_eq, List.mem_cons, List.mem_map] at h
  rcases h with rfl | ⟨data, hdata, rfl⟩
  · have hlength : (Announcement.ofPayload payload).encode.length ≤ pageSize := by
      rw [Announcement.length_encode]
      decide
    exact ⟨.header, _, rfl, hlength, .inl rfl⟩
  · exact ⟨.data, data, rfl, length_le_of_mem_pages hdata, .inr rfl⟩

/-- The frames that conclude an upgrade are none of the transfer. -/
theorem not_mem_transferFrames {payload frame : Bytes} (h : frame ∈ [infoFrame, resetFrame]) :
    frame ∉ transferFrames payload := by
  intro hmem
  obtain ⟨request, data, hframe, _, hrequest⟩ := request_of_mem_transferFrames hmem
  simp only [List.mem_cons, List.not_mem_nil, or_false] at h
  rcases h with rfl | rfl
  · cases Request.eq_of_encode_eq hframe
    simp at hrequest
  · cases Request.eq_of_encode_eq hframe
    simp at hrequest

/-- The two frames that conclude an upgrade are different. -/
theorem infoFrame_ne_resetFrame : infoFrame ≠ resetFrame := by
  intro h
  cases Request.eq_of_encode_eq h

/-! ## What reaches the transport -/

/-- Pages that are all taken are handed over in order. -/
theorem attempts_pageEvents (total sent : Nat) (pages : List Bytes) :
    attempts (pageEvents total sent pages) = pages.map fun page => taken (dataFrame page) := by
  induction pages generalizing sent with
  | nil => rfl
  | cons page rest ih =>
      show taken (dataFrame page) :: attempts (pageEvents total (sent + 1) rest) = _
      rw [ih, List.map_cons]

/-- Nothing is waited for while pages are sent. -/
theorem waits_pageEvents (total sent : Nat) (pages : List Bytes) :
    waits (pageEvents total sent pages) = [] := by
  induction pages generalizing sent with
  | nil => rfl
  | cons page rest ih => exact ih (sent + 1)

section Transfer

variable (payload : Bytes) (total : Nat) (sent : List Bytes) (later : List Event)

/-- Before anything else, the announcement and the pages are handed over. -/
theorem attempts_transfer :
    attempts (.send (headerFrame payload) (.ok ()) :: (pageEvents total 0 sent ++ later)) =
      (headerFrame payload :: sent.map dataFrame).map taken ++ attempts later := by
  show taken (headerFrame payload) :: attempts (_ ++ _) = _
  rw [attempts_append, attempts_pageEvents, List.map_cons, List.map_map]
  rfl

/-- Nothing is waited for before the transfer is through. -/
theorem waits_transfer :
    waits (.send (headerFrame payload) (.ok ()) :: (pageEvents total 0 sent ++ later)) =
      waits later := by
  show waits (_ ++ _) = _
  rw [waits_append, waits_pageEvents]
  rfl

end Transfer

/-- What an upgrade hands to the transport: frames of the transfer up to the first that fails, or
all of them and then the two that conclude it. -/
inductive Course (payload : Bytes) : List (Bytes × Except Error Unit) → Prop where
  | broken (sent frame rest error) :
      transferFrames payload = sent ++ frame :: rest →
      Course payload (sent.map taken ++ [(frame, .error error)])
  | through (asked reset) :
      Course payload ((transferFrames payload).map taken ++
        [(infoFrame, asked), (resetFrame, reset)])

variable {τ : Type} {transport : Transport τ}

/-- Whoever asks hands over the query and nothing else. -/
theorem attempts_of_asked {start : Session τ} {e : Episode τ (Except Error (Option Bytes))}
    (h : Asked transport start e) : ∃ result, attempts e.events = [(infoFrame, result)] := by
  cases h with
  | unsent => exact ⟨_, rfl⟩
  | sent => exact ⟨_, rfl⟩

/-- However an upgrade ends, what it hands over is such a course. -/
theorem course_of_upgraded {start : Session τ} {payload : Bytes}
    {e : Episode τ (Except Error Unit)} (h : Upgraded transport start payload e) :
    Course payload (attempts e.events) := by
  cases h with
  | unannounced => exact .broken [] (headerFrame payload) _ _ (transferFrames_eq payload)
  | @broken sent page rest mid reply error hpages =>
      rw [attempts_transfer]
      exact .broken _ _ _ error (transferFrames_of_pages_eq hpages)
  | @completed mid query reply htaken hasked hreset =>
      obtain ⟨asked, hasked⟩ := attempts_of_asked hasked
      rw [attempts_transfer, attempts_append, hasked, ← transferFrames_eq]
      exact .through asked reply.result

/-- So is what an upgrade of an image hands over. -/
theorem course_of_upgrade {image : Bytes} {session : Session τ}
    {e : Episode τ (Except Error Unit)} (himage : Image.regionSize ≤ image.length)
    (h : upgrade transport image session = some e) :
    Course (image.drop Image.regionSize) (attempts e.events) := by
  have hcourse := course_of_upgraded (upgraded_outline himage h)
  rw [Episode.outline, attempts_traffic] at hcourse
  exact hcourse

/-- An upgrade that ends in the phase `aborted` waited for nothing. -/
theorem waits_of_aborted {start : Session τ} {payload : Bytes}
    {e : Episode τ (Except Error Unit)} (h : Upgraded transport start payload e)
    (hphase : e.session.phase = .aborted) : waits e.events = [] := by
  cases h with
  | unannounced => rfl
  | broken sent =>
      rw [waits_transfer]
      rfl
  | completed => cases hphase

/-- An upgrade that does not bring the whole transfer to the device is aborted. -/
theorem aborted_or_transferred {start : Session τ} {payload : Bytes}
    {e : Episode τ (Except Error Unit)} (h : Upgraded transport start payload e) :
    e.session.phase = .aborted ∨ Transferred payload (attempts e.events) := by
  cases h with
  | unannounced => exact .inl rfl
  | broken => exact .inl rfl
  | completed htaken hasked hreset =>
      right
      unfold Transferred
      rw [attempts_transfer, ← transferFrames_eq]
      exact List.prefix_append _ _

/-! ## What a course looks like -/

variable {payload : Bytes} {sends : List (Bytes × Except Error Unit)}

/-- Frames that are taken are still these frames. -/
theorem map_fst_map_taken (frames : List Bytes) : (frames.map taken).map Prod.fst = frames := by
  rw [List.map_map]
  exact List.map_id frames

/-- The frames handed over are the first frames of the transfer and of its conclusion. -/
theorem Course.frames_in_order (h : Course payload sends) :
    sends.map Prod.fst <+: transferFrames payload ++ [infoFrame, resetFrame] := by
  cases h with
  | broken sent frame rest error hframes =>
      rw [List.map_append, map_fst_map_taken, hframes, List.append_assoc]
      exact ⟨rest ++ [infoFrame, resetFrame], by simp⟩
  | through asked reset =>
      rw [List.map_append, map_fst_map_taken]
      exact List.prefix_rfl

/-- Within the transfer, a send fails exactly if it is the last. -/
theorem Course.fails_iff_last (h : Course payload sends) (i : Nat) (hi : i < sends.length)
    (htransfer : i < (transferFrames payload).length) :
    (∃ error, sends[i].2 = .error error) ↔ i + 1 = sends.length := by
  cases h with
  | broken sent frame rest error hframes =>
      rcases Nat.lt_or_ge i sent.length with hbefore | hlast
      · -- in front of the broken frame everything was taken
        have htaken : (sent.map taken ++ [(frame, .error error)])[i] = taken sent[i] := by
          rw [List.getElem_append_left (by simpa using hbefore), List.getElem_map]
        rw [htaken]
        constructor
        · rintro ⟨_, h⟩
          cases h
        · intro h
          rw [List.length_append, List.length_map, List.length_singleton] at h
          omega
      · obtain rfl : i = sent.length := by
          rw [List.length_append, List.length_map, List.length_singleton] at hi
          omega
        simp
  | through asked reset =>
      have htaken : ((transferFrames payload).map taken ++
          [(infoFrame, asked), (resetFrame, reset)])[i] = taken (transferFrames payload)[i] := by
        rw [List.getElem_append_left (by simpa using htransfer), List.getElem_map]
      rw [htaken]
      constructor
      · rintro ⟨_, h⟩
        cases h
      · intro h
        simp only [List.length_append, List.length_map, List.length_cons, List.length_nil] at h
        omega

/-- If no send of the transfer fails, all frames are handed over. -/
theorem Course.frames_of_taken (h : Course payload sends)
    (hsends : ∀ (i : Nat) (hi : i < sends.length), i < (transferFrames payload).length →
      sends[i].2 = .ok ()) :
    sends.map Prod.fst = transferFrames payload ++ [infoFrame, resetFrame] := by
  cases h with
  | broken sent frame rest error hframes =>
      have hfailed := hsends sent.length (by simp) (by simp [hframes])
      simp at hfailed
  | through asked reset =>
      rw [List.map_append, map_fst_map_taken]
      rfl

/-- A broken course does not hold the whole transfer. -/
theorem not_transferred_of_broken {sent rest : List Bytes} {frame : Bytes} {error : Error}
    (hframes : transferFrames payload = sent ++ frame :: rest) :
    ¬ Transferred payload (sent.map taken ++ [(frame, .error error)]) := by
  intro h
  unfold Transferred at h
  rw [hframes, List.map_append, List.prefix_append_right_inj, List.map_cons,
    List.cons_prefix_cons] at h
  cases h.1

/-- The two frames that conclude an upgrade are handed over if and only if the whole transfer was
taken. -/
theorem Course.mem_iff_transferred (h : Course payload sends) {frame : Bytes}
    (hframe : frame ∈ [infoFrame, resetFrame]) :
    frame ∈ sends.map Prod.fst ↔ Transferred payload sends := by
  cases h with
  | broken sent last rest error hframes =>
      have habsent : frame ∉ transferFrames payload := not_mem_transferFrames hframe
      refine iff_of_false (fun hmem => habsent ?_) (not_transferred_of_broken hframes)
      rw [List.map_append, map_fst_map_taken, List.mem_append, List.map_singleton,
        List.mem_singleton] at hmem
      rw [hframes, List.mem_append, List.mem_cons]
      exact hmem.imp_right Or.inl
  | through asked reset =>
      refine iff_of_true ?_ (List.prefix_append _ _)
      rw [List.map_append, List.mem_append]
      exact .inr hframe

/-- The two frames that conclude an upgrade are handed over at most once, the reset last. -/
theorem Course.closing_once (h : Course payload sends) {frame : Bytes}
    (hframe : frame ∈ [infoFrame, resetFrame]) (hmem : frame ∈ sends.map Prod.fst) :
    (sends.map Prod.fst).count frame = 1 ∧
      (sends.map Prod.fst).getLast? = some resetFrame := by
  have htransferred := (h.mem_iff_transferred hframe).mp hmem
  cases h with
  | broken sent last rest error hframes =>
      exact absurd htransferred (not_transferred_of_broken hframes)
  | through asked reset =>
      rw [List.map_append, map_fst_map_taken, List.count_append,
        List.count_eq_zero_of_not_mem (not_mem_transferFrames hframe)]
      refine ⟨?_, by simp⟩
      simp only [List.mem_cons, List.not_mem_nil, or_false] at hframe
      rcases hframe with rfl | rfl
      · simp [Ne.symm infoFrame_ne_resetFrame]
      · simp [infoFrame_ne_resetFrame]

/-- The frames of an upgrade come in order and without repetition, and the transfer is not passed
over: whatever the transport does, an upgrade hands over the announcement and the pages up to the
first that fails, and only if none fails the query and then the reset, each once. An upgrade that
stops earlier never waits for a response. All this is said of the calls on the transport, since the
traffic of the upgrade is what passed between the two. -/
theorem upgrade_frames_in_order (transport : Transport τ) (session : Session τ) (image : Bytes)
    (himage : Image.regionSize ≤ image.length) :
    (transport.Returns → (upgrade transport image session).isSome) ∧
    ∀ e, upgrade transport image session = some e →
      let payload := image.drop Image.regionSize
      let sends := attempts e.events
      let frames := sends.map Prod.fst
      e.IsDialogue transport session ∧
      frames <+: transferFrames payload ++ [infoFrame, resetFrame] ∧
      (∀ (i : Nat) (hi : i < sends.length), i < (transferFrames payload).length →
        ((∃ error, sends[i].2 = .error error) ↔ i + 1 = sends.length)) ∧
      ((∀ (i : Nat) (hi : i < sends.length), i < (transferFrames payload).length →
        sends[i].2 = .ok ()) → frames = transferFrames payload ++ [infoFrame, resetFrame]) ∧
      (∀ frame ∈ [infoFrame, resetFrame],
        (frame ∈ frames ↔ Transferred payload sends) ∧
        (frame ∈ frames → frames.count frame = 1 ∧ frames.getLast? = some resetFrame)) ∧
      (e.session.phase = .aborted ∨ ¬ Transferred payload sends → waits e.events = []) := by
  refine ⟨fun h => total_upgrade h image session, ?_⟩
  intro e he
  have hcourse := course_of_upgrade himage he
  -- the outline has the same traffic as the upgrade itself
  have hupgraded := upgraded_outline himage he
  have haborted := aborted_or_transferred hupgraded
  have hwaits := waits_of_aborted hupgraded
  simp only [Episode.outline, attempts_traffic, waits_traffic] at haborted hwaits
  refine ⟨dialogue_of_upgrade himage he, hcourse.frames_in_order, hcourse.fails_iff_last,
    hcourse.frames_of_taken,
    fun frame hframe => ⟨hcourse.mem_iff_transferred hframe, hcourse.closing_once hframe⟩, ?_⟩
  rintro (hphase | hbroken)
  · exact hwaits hphase
  · exact hwaits (haborted.resolve_right hbroken)

/-- An upgrade of two pages, of which the transport refuses the first. -/
theorem upgrade_frames_in_order_refused :
    Image.regionSize ≤ (List.replicate 2000 0 : Bytes).length ∧
    ∃ e, upgrade Simulation.Script.transport (List.replicate 2000 0)
        (new ⟨[none, some (.transportFault "bus off")], []⟩) = some e ∧
      (attempts e.events).map Prod.fst <+:
        transferFrames (List.replicate 1988 0) ++ [infoFrame, resetFrame] ∧
      (resetFrame ∈ (attempts e.events).map Prod.fst →
        Transferred (List.replicate 1988 0) (attempts e.events)) := by
  have himage : Image.regionSize ≤ (List.replicate 2000 0 : Bytes).length := by
    rw [List.length_replicate]
    decide
  have hreturns : Simulation.Script.transport.Returns := ⟨fun _ _ => rfl, fun _ _ => rfl⟩
  obtain ⟨htotal, hframes⟩ := upgrade_frames_in_order Simulation.Script.transport
    (new ⟨[none, some (.transportFault "bus off")], []⟩) (List.replicate 2000 0) himage
  obtain ⟨e, he⟩ := Option.isSome_iff_exists.mp (htotal hreturns)
  have hpayload : (List.replicate 2000 0 : Bytes).drop Image.regionSize =
      List.replicate 1988 0 := by
    rw [List.drop_replicate]
    rfl
  obtain ⟨_, hinitial, _, _, hclosing, _⟩ := hframes e he
  rw [hpayload] at hinitial hclosing
  exact ⟨himage, e, he, hinitial, (hclosing resetFrame (by simp)).1.mp⟩

end Reflash.Session
