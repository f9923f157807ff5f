import Reflash.Proofs.Session.Rest

/-!
# What queries find out

A query asks once and waits once, and an error of a link that gave up is taken for no answer.
`Inquiry` is the exchange of one query, with what came of it. `findings` reads off the events what
queries found out, without a look at the session, and `deviceInfo_follows_queries` says that the
session remembers what the last query found out, through runs of any operations: in some of them,
those that `Asks` tells apart, there is one query, and in all others there is none.
-/

namespace Reflash

/-- An error by which a link gives up: time was up, or there was a fault. -/
inductive Error.GaveUp : Error → Prop where
  | timeout (lapse) : GaveUp (.timeout lapse)
  | transportFault (reason) : GaveUp (.transportFault reason)

/-- A link failure is an error by which a link gives up. -/
theorem Error.isLinkFailure_iff {error : Error} : error.isLinkFailure = true ↔ error.GaveUp := by
  cases error with
  | timeout lapse => exact iff_of_true rfl (.timeout lapse)
  | transportFault reason => exact iff_of_true rfl (.transportFault reason)
  | io | invalidImage | crcMismatch | corruptMessage | truncatedMessage | malformedPayload
  | abortedTransfer =>
      refine iff_of_false Bool.false_ne_true ?_
      rintro ⟨⟩

namespace Session

open Activity

variable {τ : Type} {transport : Transport τ}

/-! ## One query -/

/-- The traffic of a query, with what came of it: the error that the request met, or whatever the
wait for a response gave. -/
inductive Inquiry (timeout : Duration) : List Event → Except Error (Option Bytes) → Prop where
  | unsent (error) : Inquiry timeout [.send infoFrame (.error error)] (.error error)
  | sent (response) : Inquiry timeout
      [.send infoFrame (.ok ()), .receive timeout response] response

/-- Whoever asks makes one inquiry. -/
theorem Asked.inquiry {start : Session τ} {e : Episode τ (Except Error (Option Bytes))}
    (h : Asked transport start e) : Inquiry start.config.responseTimeout e.events e.value := by
  cases h with
  | unsent => exact .unsent _
  | sent => exact .sent _

/-- A query is one inquiry, and gives the reading of what came of it. -/
theorem inquiry_of_queryInfo {session : Session τ}
    {e : Episode τ (Except Error (Option DeviceInfo))}
    (h : queryInfo transport session = some e) :
    ∃ response, Inquiry session.config.responseTimeout (traffic e.events) response ∧
      e.value = reading response := by
  have houtline := outline_eq_some h
  rw [outline_queryInfo, Option.map_eq_some_iff] at houtline
  obtain ⟨query, hquery, he⟩ := houtline
  have hinquiry := (asked_of_fetch hquery).inquiry
  rw [Episode.outline, Episode.mk.injEq] at he
  obtain ⟨hvalue, _, hevents⟩ := he
  exact ⟨query.value, hevents ▸ hinquiry, hvalue.symm⟩

section Reading

variable {response : Except Error (Option Bytes)} {error : Error}

/-- Where the link gave up, there is nothing to read. -/
theorem reading_error_of_gaveUp (h : error.GaveUp) : reading (.error error) = .ok none :=
  if_pos (Error.isLinkFailure_iff.mpr h)

/-- Any other error stays as it is. -/
theorem reading_error_of_not_gaveUp (h : ¬ error.GaveUp) :
    reading (.error error) = .error error :=
  if_neg (mt Error.isLinkFailure_iff.mp h)

/-- A payload that came back is decoded. -/
theorem reading_payload (data : Bytes) :
    reading (.ok (some data)) = (DeviceInfo.decode data).map some := rfl

/-- A record is read from a response that holds it. -/
theorem reading_eq_ok_some_iff {info : DeviceInfo} :
    reading response = .ok (some info) ↔
      ∃ data, response = .ok (some data) ∧ DeviceInfo.decode data = .ok info := by
  match response with
  | .ok (some data) =>
    rw [reading_payload]
    cases hdecode : DeviceInfo.decode data <;> simp [Except.map, hdecode]
  | .ok none => simp [reading]
  | .error error =>
    by_cases hlink : error.GaveUp
    · simp [reading_error_of_gaveUp hlink]
    · simp [reading_error_of_not_gaveUp hlink]

/-- Nothing is read where nothing came or the link gave up. -/
theorem reading_eq_ok_none_iff :
    reading response = .ok none ↔
      response = .ok none ∨ ∃ error, response = .error error ∧ error.GaveUp := by
  match response with
  | .ok (some data) =>
    rw [reading_payload]
    cases DeviceInfo.decode data <;> simp [Except.map]
  | .ok none => simp [reading]
  | .error error =>
    by_cases hlink : error.GaveUp
    · simp [reading_error_of_gaveUp hlink, hlink]
    · simp [reading_error_of_not_gaveUp hlink, hlink]

/-- Any other error comes back as it was: that of reading the response, or the one that came in its
place. -/
theorem reading_eq_error_iff :
    reading response = .error error ↔
      (∃ data, response = .ok (some data) ∧ DeviceInfo.decode data = .error error) ∨
        response = .error error ∧ ¬ error.GaveUp := by
  match response with
  | .ok (some data) =>
    rw [reading_payload]
    cases hdecode : DeviceInfo.decode data <;> simp [Except.map, hdecode]
  | .ok none => simp [reading]
  | .error other =>
    by_cases hlink : other.GaveUp
    · rw [reading_error_of_gaveUp hlink]
      refine iff_of_false (by simp) ?_
      rintro (⟨data, hdata, _⟩ | ⟨hsame, hnot⟩)
      · cases hdata
      · cases hsame
        exact hnot hlink
    · rw [reading_error_of_not_gaveUp hlink]
      constructor
      · intro hsame
        cases hsame
        exact .inr ⟨rfl, hlink⟩
      · rintro (⟨data, hdata, _⟩ | ⟨hsame, _⟩)
        · cases hdata
        · cases hsame
          rfl

end Reading

/-! ## Findings -/

/-- What is found out from what came of an inquiry: the record in the response, if there is one. -/
def found : Except Error (Option Bytes) → Option DeviceInfo
  | .ok (some data) => (DeviceInfo.decode data).toOption
  | .ok none => none
  | .error _ => none

/-- What a query found out, if the event ends one. A query ends with the response, or with the
request if that fails. -/
def Event.finding? : Event → Option (Option DeviceInfo)
  | .send frame (.error _) => if frame = infoFrame then some none else none
  | .receive _ response => some (found response)
  | _ => none

/-- What queries found out, in order. -/
def findings (events : List Event) : List (Option DeviceInfo) :=
  events.filterMap Event.finding?

/-- What is found out in events one after the other, in order. -/
@[simp]
theorem findings_append (first second : List Event) :
    findings (first ++ second) = findings first ++ findings second :=
  List.filterMap_append

/-- Records find nothing out. -/
theorem findings_traffic (events : List Event) : findings (traffic events) = findings events :=
  filterMap_traffic Event.finding? (fun _ => rfl) events

/-- A session remembers what is found out. -/
theorem remembered_reading (response : Except Error (Option Bytes)) :
    remembered (reading response) = found response := by
  match response with
  | .ok (some data) =>
    rw [reading_payload, found]
    cases DeviceInfo.decode data <;> rfl
  | .ok none => rfl
  | .error error => exact remembered_reading_error error

/-- An inquiry finds one thing out. -/
theorem Inquiry.findings_eq {timeout : Duration} {events : List Event}
    {response : Except Error (Option Bytes)} (h : Inquiry timeout events response) :
    findings events = [found response] := by
  cases h with
  | unsent error => simp only [findings, List.filterMap, Event.finding?, if_true, found]
  | sent response => rfl

/-- The send of any other frame finds nothing out. -/
theorem findings_send_of_ne {frame : Bytes} (h : frame ≠ infoFrame)
    (result : Except Error Unit) : findings [.send frame result] = [] := by
  cases result with
  | error error => exact List.filterMap_cons_none (if_neg h)
  | ok => rfl

/-- Sending pages finds nothing out. -/
theorem findings_pageEvents (total sent : Nat) (pages : List Bytes) :
    findings (pageEvents total sent pages) = [] := by
  induction pages generalizing sent with
  | nil => rfl
  | cons page rest ih => exact ih (sent + 1)

/-- Nothing is found out before the transfer is through. -/
theorem findings_transfer (payload : Bytes) (total : Nat) (sent : List Bytes)
    (later : List Event) :
    findings (.send (headerFrame payload) (.ok ()) :: (pageEvents total 0 sent ++ later)) =
      findings later := by
  show findings (_ ++ _) = _
  rw [findings_append, findings_pageEvents]
  rfl

/-! ## Operations -/

/-- Whether an operation queries the device, going by what it handed over: a query does, and so does
an upgrade that brought the whole transfer to the device. -/
def Operation.Asks (sends : List (Bytes × Except Error Unit)) : Operation τ → Prop
  | .query => True
  | .upgrade image =>
    Image.regionSize ≤ image.length ∧ Transferred (image.drop Image.regionSize) sends
  | .reset => False
  | .configure _ => False
  | .bypass _ => False

/-- What an operation finds out, and what the session remembers afterwards. If the operation asks,
this is what its one query found out, and otherwise what it was before. -/
inductive Informed (start : Session τ) (operation : Operation τ) (events : List Event)
    (final : Session τ) : Prop where
  | asked : operation.Asks (attempts events) → findings events = [final.deviceInfo] →
      Informed start operation events final
  | silent : ¬ operation.Asks (attempts events) → findings events = [] →
      final.deviceInfo = start.deviceInfo → Informed start operation events final

section Upgraded

variable {start : Session τ} {e : Episode τ (Except Error Unit)}

/-- No frame of the transfer is the query. -/
theorem ne_infoFrame_of_mem {payload frame : Bytes} (h : frame ∈ transferFrames payload) :
    frame ≠ infoFrame := by
  rintro rfl
  exact not_mem_transferFrames (List.mem_cons_self ..) h

/-- An upgrade that ends in the phase aborted did not bring the whole transfer to the device. -/
theorem not_transferred_of_aborted {payload : Bytes} (h : Upgraded transport start payload e)
    (hphase : e.session.phase = .aborted) : ¬ Transferred payload (attempts e.events) := by
  cases h with
  | unannounced =>
      have hframes : transferFrames payload =
          [] ++ headerFrame payload :: (pages payload).map dataFrame := transferFrames_eq payload
      exact not_transferred_of_broken hframes
  | broken sent page rest hpages =>
      rw [attempts_transfer]
      exact not_transferred_of_broken (transferFrames_of_pages_eq hpages)
  | completed => cases hphase

/-- An upgrade that comes to its query remembers what that found out, and any other remembers what
was known. -/
theorem informed_of_upgraded {image : Bytes} (himage : Image.regionSize ≤ image.length)
    (h : Upgraded transport start (image.drop Image.regionSize) e) :
    Informed start (.upgrade image) e.events e.session := by
  have hnot := not_transferred_of_aborted h
  have htransferred := aborted_or_transferred h
  -- of the three ways for an upgrade to end, only one comes to the query
  cases h with
  | unannounced =>
      have hmem : headerFrame (image.drop Image.regionSize) ∈
          transferFrames (image.drop Image.regionSize) := List.mem_cons_self ..
      refine .silent (fun hasks => hnot rfl hasks.2) ?_ rfl
      exact findings_send_of_ne (ne_infoFrame_of_mem hmem) _
  | broken sent page rest hpages =>
      have hmem : dataFrame page ∈ transferFrames (image.drop Image.regionSize) := by
        rw [transferFrames_of_pages_eq hpages]
        exact List.mem_append_right _ (List.mem_cons_self ..)
      refine .silent (fun hasks => hnot rfl hasks.2) ?_ rfl
      rw [findings_transfer]
      exact findings_send_of_ne (ne_infoFrame_of_mem hmem) _
  | completed htaken hasked hreset =>
      refine .asked ⟨himage, htransferred.resolve_left fun hphase => ?_⟩ ?_
      · cases hphase
      · rw [findings_transfer, findings_append, hasked.inquiry.findings_eq,
          findings_send_of_ne (Ne.symm infoFrame_ne_resetFrame), remembered_reading]
        rfl

end Upgraded

/-- So it is with every operation. -/
theorem informed_of_performed {start : Session τ} {operation : Operation τ}
    {e : Episode τ Answer} (h : Performed transport start operation e) :
    Informed start operation e.events e.session := by
  cases h with
  | query hasked =>
      refine .asked trivial ?_
      rw [hasked.inquiry.findings_eq, remembered_reading]
  | refused hshort => exact .silent (fun hasks => Nat.not_le_of_lt hshort hasks.1) rfl rfl
  | upgrade hlong hupgraded => exact informed_of_upgraded hlong hupgraded
  | reset => exact .silent id (findings_send_of_ne (Ne.symm infoFrame_ne_resetFrame) _) rfl
  | configure | bypass => exact .silent id rfl rfl

/-- Every operation either asks once or leaves alone what the session remembers. -/
theorem informed_of_perform {operation : Operation τ} {session : Session τ}
    {e : Episode τ Answer} (h : perform transport operation session = some e) :
    Informed session operation e.events e.session := by
  cases informed_of_performed (performed_of_perform h) with
  | asked hasks hfindings =>
      rw [Episode.outline, attempts_traffic] at hasks
      rw [Episode.outline, findings_traffic] at hfindings
      exact .asked hasks hfindings
  | silent hasks hfindings hsame =>
      rw [Episode.outline, attempts_traffic] at hasks
      rw [Episode.outline, findings_traffic] at hfindings
      exact .silent hasks hfindings hsame

/-! ## Runs -/

/-- What the queries of a turn found out. -/
def Turn.findings (turn : Turn τ) : List (Option DeviceInfo) :=
  Session.findings turn.episode.events

/-- After a run a session remembers what was found out last, or what it did before. -/
theorem deviceInfo_after {operations : List (Operation τ)} {session : Session τ}
    {turns : List (Turn τ)} (h : run transport operations session = some turns) :
    (after session turns).deviceInfo =
      (turns.flatMap Turn.findings).getLast?.getD session.deviceInfo := by
  induction operations generalizing session turns with
  | nil =>
      cases h
      rfl
  | cons operation rest ih =>
      obtain ⟨episode, others, hfirst, hothers, rfl⟩ := run_cons_eq_some h
      rw [List.flatMap_cons, List.getLast?_append]
      show (after episode.session others).deviceInfo = _
      rw [ih hothers]
      -- what this turn found out counts if no later one found out anything
      cases hlater : (others.flatMap Turn.findings).getLast? with
      | some info => rfl
      | none =>
          rw [Option.none_or]
          show episode.session.deviceInfo = (findings episode.events).getLast?.getD _
          cases informed_of_perform hfirst with
          | asked _ hfindings => rw [hfindings]; rfl
          | silent _ hfindings hsame => rw [hfindings]; exact hsame

/-- The answer to a query is what the session remembers, unless it is an error. -/
theorem answer_of_query {session : Session τ} {e : Episode τ Answer}
    (h : perform transport .query session = some e) :
    ∃ result, e.value = .info result ∧ e.session.deviceInfo = remembered result := by
  have hperformed := performed_of_perform h
  show ∃ result, e.outline.value = _ ∧ e.outline.session.deviceInfo = _
  generalize e.outline = outline at hperformed ⊢
  cases hperformed with
  | query hasked => exact ⟨_, rfl, rfl⟩

/-- An upgrade of an image is aborted exactly if it does not come to its query. -/
theorem aborted_iff_not_asks {image : Bytes} (himage : Image.regionSize ≤ image.length)
    {session : Session τ} {e : Episode τ Answer}
    (h : perform transport (.upgrade image) session = some e) :
    e.session.phase = .aborted ↔
      ¬ (Operation.upgrade image : Operation τ).Asks (attempts e.events) := by
  have hperformed := performed_of_perform h
  rw [← attempts_traffic]
  show e.outline.session.phase = _ ↔ ¬ Operation.Asks (attempts e.outline.events) _
  generalize e.outline = outline at hperformed ⊢
  cases hperformed with
  | refused hshort => exact absurd himage (Nat.not_le_of_lt hshort)
  | upgrade _ hupgraded =>
      constructor
      · exact fun hphase hasks => not_transferred_of_aborted hupgraded hphase hasks.2
      · intro hnot
        exact (aborted_or_transferred hupgraded).resolve_right fun htransferred =>
          hnot ⟨himage, htransferred⟩

/-- What comes of a query, and what a session remembers of its queries. A query sends one frame, the
request, and waits for a response once if that was taken. It gives the record in the response;
nothing if nothing came, or if request or wait met an error by which a link gives up; and otherwise
the error as it came. After any run of operations, the session remembers what the last query found
out. A query and an upgrade that brought the whole transfer to the device find out one thing each.
Everything else, upgrades that are aborted among it, leaves alone what the session remembers. Requests
and waits are those on the transport. -/
theorem deviceInfo_follows_queries (transport : Transport τ) (session : Session τ) :
    (transport.Returns → (queryInfo transport session).isSome) ∧
    (∀ e, queryInfo transport session = some e → e.IsDialogue transport session ∧
      ∃ response, Inquiry session.config.responseTimeout (traffic e.events) response ∧
        (∀ info, e.value = .ok (some info) ↔
          ∃ data, response = .ok (some data) ∧ DeviceInfo.decode data = .ok info) ∧
        (e.value = .ok none ↔
          response = .ok none ∨ ∃ error, response = .error error ∧ error.GaveUp) ∧
        ∀ error, e.value = .error error ↔
          (∃ data, response = .ok (some data) ∧ DeviceInfo.decode data = .error error) ∨
            response = .error error ∧ ¬ error.GaveUp) ∧
    ∀ operations,
      (transport.Returns → (run transport operations session).isSome) ∧
      ∀ turns, run transport operations session = some turns →
        (after session turns).deviceInfo =
          (turns.flatMap Turn.findings).getLast?.getD session.deviceInfo ∧
        ∀ turn ∈ turns, turn.IsDialogue transport ∧
          (turn.operation.Asks turn.sends → turn.findings = [turn.episode.session.deviceInfo]) ∧
          (¬ turn.operation.Asks turn.sends → turn.findings = [] ∧
            turn.episode.session.deviceInfo = turn.start.deviceInfo) ∧
          (turn.operation = .query → ∃ result, turn.episode.value = .info result ∧
            turn.episode.session.deviceInfo = remembered result) ∧
          ∀ image, turn.operation = .upgrade image → Image.regionSize ≤ image.length →
            (turn.episode.session.phase = .aborted ↔ ¬ turn.operation.Asks turn.sends) := by
  refine ⟨fun h => total_queryInfo h session, ?_, fun operations => ⟨?_, ?_⟩⟩
  · intro e he
    obtain ⟨response, hinquiry, hvalue⟩ := inquiry_of_queryInfo he
    rw [hvalue]
    exact ⟨dialogue_of_queryInfo he, response, hinquiry, fun _ => reading_eq_ok_some_iff,
      reading_eq_ok_none_iff, fun _ => reading_eq_error_iff⟩
  · exact fun h => isSome_run h operations session
  · intro turns hrun
    refine ⟨deviceInfo_after hrun, fun turn hturn => ?_⟩
    have hperform := performed_of_mem_run hrun hturn
    refine ⟨dialogue_of_mem_run hrun hturn, fun hasks => ?_, fun hnot => ?_, fun hquery => ?_,
      fun image himage hlong => ?_⟩
    · cases informed_of_perform hperform with
      | asked _ hfindings => exact hfindings
      | silent hnot _ _ => exact absurd hasks hnot
    · cases informed_of_perform hperform with
      | asked hasks _ => exact absurd hasks hnot
      | silent _ hfindings hsame => exact ⟨hfindings, hsame⟩
    · rw [hquery] at hperform
      exact answer_of_query hperform
    · rw [himage] at hperform ⊢
      exact aborted_iff_not_asks hlong hperform

/-- A query that is answered with a record, an upgrade of one page that the transport refuses, a
reset, and something that is no image: the session remembers the record. -/
theorem deviceInfo_follows_queries_refused :
    let operations := [.query, .upgrade (List.replicate 14 0), .reset, .upgrade [1]]
    let start : Simulation.Script := {
      sends := [none, none, some (.transportFault "bus off")]
      receives := [.ok (some (List.replicate DeviceInfo.size 0))] }
    let info : DeviceInfo := {
      version := ""
      hardwareRevision := 0
      name := ""
      deviceId := "000"
      id := ⟨0, 0, 0⟩
      gitSha := "" }
    (∃ turns, run Simulation.Script.transport operations (new start) = some turns ∧
      (after (new start) turns).deviceInfo = some info) ∧
    ∃ e response, queryInfo Simulation.Script.transport (new start) = some e ∧
      Inquiry Config.standard.responseTimeout (traffic e.events) response := by
  intro operations start info
  have hreturns : Simulation.Script.transport.Returns := ⟨fun _ _ => rfl, fun _ _ => rfl⟩
  obtain ⟨hquery, hinquiry, hruns⟩ :=
    deviceInfo_follows_queries Simulation.Script.transport (new start)
  constructor
  · have hfindings : (run Simulation.Script.transport operations (new start)).map
        (fun turns => turns.flatMap Turn.findings) = some [some info] := by
      decide +kernel
    obtain ⟨turns, hrun, hfound⟩ := Option.map_eq_some_iff.mp hfindings
    refine ⟨turns, hrun, ?_⟩
    rw [((hruns operations).2 turns hrun).1, hfound]
    rfl
  · obtain ⟨e, he⟩ := Option.isSome_iff_exists.mp (hquery hreturns)
    obtain ⟨_, response, hresponse, _⟩ := hinquiry e he
    exact ⟨e, response, he, hresponse⟩

end Session

end Reflash
