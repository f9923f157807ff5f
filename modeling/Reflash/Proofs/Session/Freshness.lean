import Reflash.Proofs.Device.Record
import Reflash.Proofs.Link.Exchange
import Reflash.Proofs.Session.Run
import Reflash.Proofs.Session.Verdict

/-!
# Replies to the request that was made

A session over a link must not read a late reply as one to its new request, and must not be put out
by what earlier operations left behind. Over a stack whose inbox holds no empty entries every
payload that a query reads is fresh, and a record that answers the request in time is what the
query gives.
-/

namespace Reflash

open Stack Link

variable {σ : Type} {stack : Stack σ}

namespace Session

variable {rounds : Nat}

/-! ## What a query reads -/

/-- Frames that are all taken are what is handed to the stack. -/
theorem leads_of_taken {link final : Link (Recorded σ)} {frames : List Bytes}
    (h : Taken (Link.transport stack.recorded rounds) link frames final) :
    ∃ made, Leads stack link made final ∧ handed made = frames := by
  induction h with
  | nil link => exact ⟨[], (Passes.refl link).toLeads, rfl⟩
  | cons hsend _ _ ih =>
      obtain ⟨first, hfirst, hframe⟩ := (sent_of_send hsend).leads
      obtain ⟨others, hothers, hframes⟩ := ih
      refine ⟨first ++ others, hfirst.trans hothers, ?_⟩
      rw [handed_append, hframe, hframes]
      rfl

/-- What comes back to whoever asks has arrived since the request was handed over. -/
theorem fresh_of_asked (inbox : stack.Inbox) (hstack : stack.Forthcoming)
    {start : Session (Link (Recorded σ))}
    {e : Episode (Link (Recorded σ)) (Except Error (Option Bytes))}
    (h : Asked (Link.transport stack.recorded rounds) start e) {timeout : Duration}
    {payload : Bytes} (hwait : (timeout, .ok (some payload)) ∈ waits e.events) :
    e.value = .ok (some payload) ∧
      Fresh inbox infoFrame start.transport e.session.transport payload := by
  cases h with
  | unsent => cases hwait
  | @sent reply response hsend hok hreceive =>
      have hwait : _ ∈ [(start.config.responseTimeout, response.result)] := hwait
      rw [List.mem_singleton] at hwait
      have hpayload := (congrArg Prod.snd hwait).symm
      exact ⟨hpayload, fresh_of_receive inbox hstack hsend hok hreceive hpayload⟩

/-- What a session remembers of a payload is the record that it holds. -/
theorem remembered_reading_payload {payload : Bytes} {info : DeviceInfo} :
    remembered (reading (.ok (some payload))) = some info ↔
      DeviceInfo.decode payload = .ok info := by
  rw [remembered_reading_eq_some]
  constructor
  · rintro ⟨_, heq, hdecode⟩
    cases heq
    exact hdecode
  · intro hdecode
    exact ⟨payload, rfl, hdecode⟩

/-- In no operation is any other payload read. -/
theorem fresh_of_perform (inbox : stack.Inbox) (hstack : stack.Forthcoming)
    {operation : Operation (Link (Recorded σ))} {session : Session (Link (Recorded σ))}
    {e : Episode (Link (Recorded σ)) Answer}
    (h : perform (Link.transport stack.recorded rounds) operation session = some e)
    {timeout : Duration} {payload : Bytes}
    (hwait : (timeout, .ok (some payload)) ∈ waits e.events) :
    Fresh inbox infoFrame session.transport e.session.transport payload ∧
      ∀ info, e.session.deviceInfo = some info ↔ DeviceInfo.decode payload = .ok info := by
  -- records are no waits, so the outline has the same ones
  have hperformed := performed_of_perform h
  rw [← waits_traffic] at hwait
  change (timeout, .ok (some payload)) ∈ waits e.outline.events at hwait
  show Fresh inbox infoFrame session.transport e.outline.session.transport payload ∧
    ∀ info, e.outline.session.deviceInfo = some info ↔ _
  generalize e.outline = outline at hperformed hwait ⊢
  cases hperformed with
  | @query query hasked =>
      obtain ⟨hvalue, hfresh⟩ := fresh_of_asked inbox hstack hasked hwait
      refine ⟨hfresh, fun info => ?_⟩
      show remembered (reading query.value) = some info ↔ _
      rw [hvalue]
      exact remembered_reading_payload
  | @upgrade image upgraded _ hupgraded =>
      change (timeout, .ok (some payload)) ∈ waits upgraded.events at hwait
      cases hupgraded with
      | unannounced => cases hwait
      | broken =>
          rw [waits_transfer] at hwait
          cases hwait
      | @completed mid query reply htaken hasked hreset =>
          have hlast : waits [.send resetFrame reply.result] = [] := rfl
          rw [waits_transfer, waits_append, hlast, List.append_nil] at hwait
          obtain ⟨hvalue, hfresh⟩ := fresh_of_asked inbox hstack hasked hwait
          obtain ⟨transferred, hmid, hframes⟩ := leads_of_taken htaken
          obtain ⟨closing, hclosing, hclosed⟩ := (sent_of_send hreset).leads
          refine ⟨(hfresh.before hmid ?_).after hclosing ?_, fun info => ?_⟩
          · rw [hframes, ← transferFrames_eq]
            exact not_mem_transferFrames List.mem_cons_self
          · rw [hclosed, List.mem_singleton]
            exact infoFrame_ne_resetFrame
          · show remembered (reading query.value) = some info ↔ _
            rw [hvalue]
            exact remembered_reading_payload
  | refused | reset | configure | bypass => cases hwait

/-! ## What a query gives -/

/-- A query whose request is answered makes of the answer what it can. -/
theorem queryInfo_of_received {τ : Type} {transport : Transport τ} {session : Session τ}
    {reply : Reply τ Unit} {response : Reply τ (Option Bytes)}
    (hsend : transport.send session.transport infoFrame = some reply) (hok : reply.result = .ok ())
    (hreceive : transport.receive reply.state session.config.responseTimeout = some response) :
    ∃ e, queryInfo transport session = some e ∧ e.value = reading response.result ∧
      e.session.deviceInfo = remembered (reading response.result) := by
  have hfetch : (fetch transport).outline { session with phase := .queryingInfo } = some {
      value := response.result
      session := { session with transport := response.state, phase := .queryingInfo }
      events := [.send infoFrame (.ok ()),
        .receive session.config.responseTimeout response.result] } := by
    have hframe : transport.send session.transport (Request.info.encode []) = some reply := hsend
    unfold fetch
    rw [Activity.outline_bind, outline_transmit]
    simp only [hframe, Option.map_some, Option.bind_some, hok, Activity.outline_current_bind,
      Activity.outline_receive, hreceive]
    rfl
  have houtline := (outline_queryInfo session : (queryInfo transport).outline session = _)
  rw [hfetch, Option.map_some] at houtline
  obtain ⟨e, hquery, he⟩ := Option.map_eq_some_iff.mp houtline
  exact ⟨e, hquery, congrArg Episode.value he, congrArg (fun e => e.session.deviceInfo) he⟩

/-- In every run over a link whose stack keeps what arrives in a queue, each payload that a query
reads, by a call on the link, is the first that arrived since that query's own request was handed to
the stack, whatever earlier operations left behind, and what the session then remembers is the record
in it. And whatever they left behind, a query whose request goes out without trouble and whose answer
shows in time gives the record in the answer and remembers it. -/
theorem queries_fresh_and_answered (inbox : stack.Inbox) (hstack : stack.Forthcoming)
    (session : Session (Link (Recorded σ))) :
    (∀ rounds operations turns,
      run (Link.transport stack.recorded rounds) operations session = some turns →
        ∀ turn ∈ turns, turn.IsDialogue (Link.transport stack.recorded rounds) ∧
          ∀ timeout payload, (timeout, .ok (some payload)) ∈ waits turn.episode.events →
            Fresh inbox infoFrame turn.start.transport turn.episode.session.transport payload ∧
            ∀ info, turn.episode.session.deviceInfo = some info ↔
              DeviceInfo.decode payload = .ok info) ∧
    ∀ record, record.length = DeviceInfo.size →
      Answered inbox session.config.responseTimeout session.transport infoFrame record →
        ∃ info needed, DeviceInfo.decode record = .ok info ∧ ∀ rounds ≥ needed,
          ∃ e, queryInfo (Link.transport stack.recorded rounds) session = some e ∧
            e.value = .ok (some info) ∧ e.session.deviceInfo = some info := by
  constructor
  · intro rounds operations turns hrun turn hturn
    refine ⟨dialogue_of_mem_run hrun hturn, ?_⟩
    intro timeout payload hwait
    exact fresh_of_perform inbox hstack (performed_of_mem_run hrun hturn) hwait
  · intro record hlength hanswered
    obtain ⟨info, hdecode⟩ := DeviceInfo.exists_decode_eq_ok hlength
    obtain ⟨needed, hneeded⟩ := hanswered.eventually_received hstack
    refine ⟨info, needed, hdecode, fun rounds hrounds => ?_⟩
    obtain ⟨reply, response, hsend, hok, hreceive, hresponse⟩ := hneeded rounds hrounds
    have hsend : (Link.transport stack.recorded rounds).send session.transport infoFrame =
        some reply := hsend
    obtain ⟨e, hquery, hvalue, hinfo⟩ := queryInfo_of_received hsend hok hreceive
    refine ⟨e, hquery, ?_, ?_⟩
    · rw [hvalue, hresponse]
      show (DeviceInfo.decode record).map some = _
      rw [hdecode]
      rfl
    · rw [hinfo, hresponse]
      exact remembered_reading_payload.mpr hdecode

open Simulation

/-- A query that begins with the flag still raised and an old payload in the inbox. -/
theorem queries_fresh_and_answered_late_reply :
    let answer : Bytes := List.replicate 82 0
    let link : Link (List Bytes) := {
      stack := [[1]]
      fault := .raised (some "bus off")
      config := .standard
      clock := .zero }
    let session := new (link.watched [])
    (∃ turns, run (Link.transport (echo answer).recorded 3) [.query] session = some turns ∧
      ∀ turn ∈ turns, ∀ timeout payload,
        (timeout, .ok (some payload)) ∈ waits turn.episode.events →
          Fresh (echoQueue answer) infoFrame turn.start.transport turn.episode.session.transport
            payload) ∧
    ∃ info needed, DeviceInfo.decode answer = .ok info ∧ ∀ rounds ≥ needed,
      ∃ e, queryInfo (Link.transport (echo answer).recorded rounds) session = some e ∧
        e.value = .ok (some info) ∧ e.session.deviceInfo = some info := by
  intro answer link session
  obtain ⟨hfresh, hanswered⟩ :=
    queries_fresh_and_answered (echoQueue answer) (echo_forthcoming answer) session
  constructor
  · obtain ⟨turns, hrun⟩ : ∃ turns,
        run (Link.transport (echo answer).recorded 3) [.query] session = some turns :=
      ⟨_, rfl⟩
    exact ⟨turns, hrun, fun turn hturn timeout payload hwait =>
      ((hfresh 3 [.query] turns hrun turn hturn).2 timeout payload hwait).1⟩
  · let request : Entry (List Bytes) := ⟨.send infoFrame (.ok ()), [], [answer], []⟩
    let look : Entry (List Bytes) := ⟨.transmitting false, [answer], [answer], []⟩
    let dropped : List (Entry (List Bytes)) := [
      ⟨.available true, [[1]], [[1]], []⟩,
      ⟨.recv (some [1]), [[1]], [], []⟩,
      ⟨.available false, [], [], []⟩]
    obtain ⟨reply, hsend, hmade⟩ : ∃ reply,
        Link.send (echo answer).recorded 3 session.transport infoFrame = some reply ∧
          reply.state.stack.entries =
            session.transport.stack.entries ++ (dropped ++ request :: [look]) :=
      ⟨_, rfl, rfl⟩
    have hquiet : ∀ entry ∈ dropped ++ request :: [look], entry.raised = [] :=
      reasons_eq_nil_iff.mp rfl
    have hfirst : ((echoQueue answer).arrivals (request :: [look])).head? = some answer := rfl
    exact hanswered answer rfl
      (.intro hsend hmade rfl hquiet rfl (.here reply.state) hmade rfl hfirst)

end Session

end Reflash
