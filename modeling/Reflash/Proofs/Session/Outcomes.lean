import Reflash.Proofs.Session.Traffic
import Reflash.Session.Basic

/-!
# How the activities of a session can end

For every activity this module says once what it can do, in outline: which calls it makes on the
transport, what it reports, what comes back and what the session is afterwards. `Streamed` lists
the two ways in which sending pages can end and `Upgraded` the three ways of an upgrade;
`streamed_of_sendPages` and `upgraded_of_upgrade` say that there are no others.
-/

namespace Reflash

/-- The progress once further pages are sent. -/
def Progress.advanceAll (p : Progress) (pages : List Bytes) : Progress :=
  { p with
    pagesSent := p.pagesSent + pages.length
    bytesSent := p.bytesSent + pages.flatten.length }

/-- Pages advance the progress one after the other. -/
theorem Progress.advanceAll_cons (p : Progress) (page : Bytes) (rest : List Bytes) :
    p.advanceAll (page :: rest) = (p.advance page.length).advanceAll rest := by
  unfold advanceAll advance
  simp only [List.length_cons, List.flatten_cons, List.length_append, Progress.mk.injEq, true_and]
  omega

namespace Session

open Activity

/-- The frame that asks for the information record. -/
def infoFrame : Bytes := Request.info.encode []

/-- The frame that reboots the device. -/
def resetFrame : Bytes := Request.reset.encode []

/-- The frame that announces a payload. -/
def headerFrame (payload : Bytes) : Bytes :=
  Request.header.encode (Announcement.ofPayload payload).encode

/-- The frame that carries a page. -/
def dataFrame (page : Bytes) : Bytes := Request.data.encode page

variable {τ : Type} {transport : Transport τ}

/-! ## Single exchanges -/

/-- Transmitting a request is one send of its frame. -/
theorem outline_transmit (request : Request) (payload : Bytes) (session : Session τ) :
    (transmit transport request payload).outline session =
      (transport.send session.transport (request.encode payload)).map fun reply => {
        value := reply.result
        session := { session with transport := reply.state }
        events := [.send (request.encode payload) reply.result] } := by
  unfold transmit
  rw [outline_log_bind, outline_send]

/-- Resetting the device is one send. -/
theorem outline_reset (session : Session τ) :
    (reset transport).outline session =
      (transport.send session.transport resetFrame).map fun reply => {
        value := reply.result
        session := { session with transport := reply.state }
        events := [.send resetFrame reply.result] } := by
  unfold reset
  rw [outline_log_bind, outline_transmit]
  rfl

/-- Announcing a payload is one send, in a phase of its own. -/
theorem outline_announce (payload : Bytes) (session : Session τ) :
    (announce transport payload).outline session =
      (transport.send session.transport (headerFrame payload)).map fun reply => {
        value := reply.result
        session := { session with transport := reply.state, phase := .sendingHeader }
        events := [.send (headerFrame payload) reply.result] } := by
  unfold announce
  simp only [outline_log_bind, outline_enter_bind]
  rw [outline_transmit]
  rfl

/-- Giving up makes no call and reports how far the upgrade came. -/
theorem outline_abort (source : Error) (session : Session τ) :
    (abort source : Activity τ (Except Error Unit)).outline session = some {
      value := .error (.abortedTransfer session.progress.pagesSent
        session.progress.totalPages source)
      session := { session with phase := .aborted }
      events := [] } := by
  unfold abort
  simp only [outline_current_bind, outline_log_bind, outline_enter_bind, outline_pure]

/-! ## Queries -/

/-- How asking for the information record can go: the request is not sent, or it is sent and
something comes back. -/
inductive Asked (transport : Transport τ) (start : Session τ) :
    Episode τ (Except Error (Option Bytes)) → Prop where
  | unsent {reply error} :
      transport.send start.transport infoFrame = some reply → reply.result = .error error →
      Asked transport start {
        value := .error error
        session := { start with transport := reply.state }
        events := [.send infoFrame (.error error)] }
  | sent {reply response} :
      transport.send start.transport infoFrame = some reply → reply.result = .ok () →
      transport.receive reply.state start.config.responseTimeout = some response →
      Asked transport start {
        value := response.result
        session := { start with transport := response.state }
        events := [.send infoFrame (.ok ()),
          .receive start.config.responseTimeout response.result] }

/-- Asking ends in one of the two ways. -/
theorem asked_of_fetch {session : Session τ} {e : Episode τ (Except Error (Option Bytes))}
    (h : (fetch transport).outline session = some e) : Asked transport session e := by
  unfold fetch at h
  rw [outline_bind, outline_transmit, Option.bind_map, Option.bind_eq_some_iff] at h
  obtain ⟨reply, hsend, h⟩ := h
  cases hresult : reply.result with
  | error error =>
      simp only [Function.comp_apply, hresult, outline_pure, Option.map_some,
        Option.some.injEq] at h
      subst h
      exact .unsent hsend hresult
  | ok =>
      simp only [Function.comp_apply, hresult, outline_current_bind, outline_receive,
        Option.map_map, Option.map_eq_some_iff] at h
      obtain ⟨response, hreceive, rfl⟩ := h
      exact .sent hsend hresult hreceive

/-- What is made of a response, or of the error that came in its place. -/
def reading : Except Error (Option Bytes) → Except Error (Option DeviceInfo)
  | .ok (some payload) => (DeviceInfo.decode payload).map some
  | .ok none => .ok none
  | .error e => if e.isLinkFailure then .ok none else .error e

/-- What a session remembers of a reading. -/
def remembered : Except Error (Option DeviceInfo) → Option DeviceInfo
  | .ok info => info
  | .error _ => none

/-- Reading the response adds no traffic. -/
theorem outline_fetchInfo (session : Session τ) :
    (fetchInfo transport).outline session =
      ((fetch transport).outline session).map fun e => { e with value := reading e.value } := by
  unfold fetchInfo
  rw [outline_log_bind, outline_bind]
  cases (fetch transport).outline session with
  | none => rfl
  | some e =>
      obtain ⟨value, after, events⟩ := e
      simp only [Option.bind_some, Option.map_some]
      match value with
      | .ok (some payload) =>
        cases hdecode : DeviceInfo.decode payload with
        | error error =>
            simp only [reading, hdecode, outline_pure, Option.map_some, Episode.after,
              List.append_nil]
            rfl
        | ok info =>
            simp only [reading, hdecode, outline_log_bind, outline_pure, Option.map_some,
              Episode.after, List.append_nil]
            rfl
      | .ok none =>
        simp only [reading, outline_current_bind, outline_log_bind, outline_pure,
          Option.map_some, Episode.after, List.append_nil]
      | .error error =>
        cases hlink : error.isLinkFailure <;>
          simp only [reading, hlink, Bool.false_eq_true, if_false, if_true, outline_log_bind,
            outline_pure, Option.map_some, Episode.after, List.append_nil]

/-- A query asks, comes back to its phase and remembers what it made of the response. -/
theorem outline_queryInfo (session : Session τ) :
    (queryInfo transport).outline session =
      ((fetch transport).outline { session with phase := .queryingInfo }).map fun e => {
        value := reading e.value
        session := { e.session with
          phase := session.phase
          deviceInfo := remembered (reading e.value) }
        events := e.events } := by
  unfold queryInfo
  simp only [outline_current_bind, outline_enter_bind]
  rw [outline_bind, outline_fetchInfo, Option.bind_map]
  cases (fetch transport).outline { session with phase := .queryingInfo } with
  | none => rfl
  | some e =>
      simp only [Option.bind_some, Function.comp_apply, outline_enter_bind, outline_change_bind,
        outline_pure, Option.map_some, Episode.after, List.append_nil]
      rfl

/-! ## Upgrades -/

/-- The transport takes all of `frames`, one after the other. -/
inductive Taken (transport : Transport τ) : τ → List Bytes → τ → Prop where
  | nil (state) : Taken transport state [] state
  | cons {state frame reply frames final} :
      transport.send state frame = some reply → reply.result = .ok () →
      Taken transport reply.state frames final →
      Taken transport state (frame :: frames) final

/-- The traffic of pages that are all taken, when `sent` of `total` pages were out before. -/
def pageEvents (total : Nat) : Nat → List Bytes → List Event
  | _, [] => []
  | sent, page :: rest =>
    .send (dataFrame page) (.ok ()) :: .progress (sent + 1) total ::
      pageEvents total (sent + 1) rest

/-- How sending pages can end: all of them are taken, or some are and the next one is not. The
phase afterwards is left open, since whoever sends pages enters another one at once. -/
inductive Streamed (transport : Transport τ) (start : Session τ) (pages : List Bytes) :
    Episode τ (Except Error Unit) → Prop where
  | through {final phase} :
      Taken transport start.transport (pages.map dataFrame) final →
      Streamed transport start pages {
        value := .ok ()
        session := { start with
          transport := final
          phase
          progress := start.progress.advanceAll pages }
        events := pageEvents start.progress.totalPages start.progress.pagesSent pages }
  | broken (sent page rest) {mid reply error phase} :
      pages = sent ++ page :: rest →
      Taken transport start.transport (sent.map dataFrame) mid →
      transport.send mid (dataFrame page) = some reply → reply.result = .error error →
      Streamed transport start pages {
        value := .error error
        session := { start with
          transport := reply.state
          phase
          progress := start.progress.advanceAll sent }
        events := pageEvents start.progress.totalPages start.progress.pagesSent sent ++
          [.send (dataFrame page) (.error error)] }

/-- A page that is taken comes before whatever becomes of the pages after it. -/
theorem Streamed.cons (start : Session τ) {number : Nat} {page : Bytes} {rest : List Bytes}
    {reply : Reply τ Unit} {e : Episode τ (Except Error Unit)}
    (hsend : transport.send start.transport (dataFrame page) = some reply)
    (hresult : reply.result = .ok ())
    (h : Streamed transport { start with
      transport := reply.state
      phase := .streamingData number
      progress := start.progress.advance page.length } rest e) :
    Streamed transport start (page :: rest)
      (e.after [.send (dataFrame page) (.ok ()),
        .progress (start.progress.pagesSent + 1) start.progress.totalPages]) := by
  cases h with
  | through htaken =>
      rw [← Progress.advanceAll_cons]
      exact .through (.cons hsend hresult htaken)
  | broken sent next others hpages htaken hbreak herror =>
      rw [← Progress.advanceAll_cons]
      exact .broken (page :: sent) next others (by rw [hpages, List.cons_append])
        (.cons hsend hresult htaken) hbreak herror

/-- Pages are sent in order until one is not taken. -/
theorem streamed_of_sendPages {number : Nat} {pages : List Bytes} {session : Session τ}
    {e : Episode τ (Except Error Unit)}
    (h : (sendPages transport number pages).outline session = some e) :
    Streamed transport session pages e := by
  induction pages generalizing number session e with
  | nil =>
      unfold sendPages at h
      rw [outline_pure, Option.some.injEq] at h
      subst h
      exact .through (.nil _)
  | cons page rest ih =>
      unfold sendPages at h
      simp only [outline_enter_bind, outline_log_bind] at h
      rw [outline_bind, outline_transmit, Option.bind_map, Option.bind_eq_some_iff] at h
      obtain ⟨reply, hsend, h⟩ := h
      -- the reply to this page decides whether there is anything to send after it
      cases hresult : reply.result with
      | error error =>
          simp only [Function.comp_apply, hresult, outline_pure, Option.map_some,
            Option.some.injEq] at h
          subst h
          exact .broken [] page rest rfl (.nil _) hsend hresult
      | ok =>
          simp only [Function.comp_apply, hresult, outline_change_bind, outline_current_bind,
            outline_log_bind, outline_progress_bind, Option.map_map,
            Option.map_eq_some_iff] at h
          obtain ⟨later, hlater, rfl⟩ := h
          exact Streamed.cons session hsend hresult (ih hlater)

/-- When every page is out, the device is queried and reset; only the reset decides the result. -/
theorem outline_conclude (session : Session τ) :
    (conclude transport).outline session =
      ((queryInfo transport).outline session).bind fun query =>
        (transport.send query.session.transport resetFrame).map fun reply => {
          value := reply.result
          session := { query.session with transport := reply.state, phase := .completed }
          events := query.events ++ [.send resetFrame reply.result] } := by
  unfold conclude
  rw [outline_log_bind, outline_bind]
  congr 1
  funext query
  obtain ⟨value, after, events⟩ := query
  -- whatever the query gave, what comes after it is the same
  rcases value with error | info | info <;>
    simp only [outline_log_bind, outline_enter_bind] <;>
    rw [outline_bind, outline_reset]
  all_goals
    cases transport.send after.transport resetFrame with
    | none => rfl
    | some reply =>
        cases hresult : reply.result <;>
          simp only [Option.map_some, Option.bind_some, hresult, outline_enter_bind,
            outline_log_bind, outline_pure, Episode.after, List.append_nil]

/-- What is known of an image goes to the records only. -/
theorem outline_introduce_bind {β : Type} (image : Bytes) (next : Unit → Activity τ β)
    (session : Session τ) :
    (introduce image >>= next).outline session = (next ()).outline session := by
  unfold introduce
  cases Image.Header.parse? image with
  | none =>
      rw [outline_bind, outline_pure]
      exact Episode.map_after_nil _
  | some header => exact outline_log_bind _ _ next session

/-- What is long enough for a header region is an image, with everything behind the region for
its payload. -/
theorem imagePayload_of_le {image : Bytes} (h : Image.regionSize ≤ image.length) :
    image.imagePayload = .ok (image.drop Image.regionSize) := by
  unfold Bytes.imagePayload
  rw [Image.ofBytes_of_le h]
  exact congrArg Except.ok (Image.payload_eq_drop ⟨image, h⟩)

/-- How an upgrade can end: the announcement is not taken, or some page is not, or everything is
taken and the device is queried and reset. -/
inductive Upgraded (transport : Transport τ) (start : Session τ) (payload : Bytes) :
    Episode τ (Except Error Unit) → Prop where
  | unannounced {reply error} :
      transport.send start.transport (headerFrame payload) = some reply →
      reply.result = .error error →
      Upgraded transport start payload {
        value := .error (.abortedTransfer 0 (pageCount payload.length) error)
        session := { start with
          transport := reply.state
          phase := .aborted
          progress := .start (pageCount payload.length) }
        events := [.send (headerFrame payload) (.error error)] }
  | broken (sent page rest) {mid reply error} :
      pages payload = sent ++ page :: rest →
      Taken transport start.transport (headerFrame payload :: sent.map dataFrame) mid →
      transport.send mid (dataFrame page) = some reply → reply.result = .error error →
      Upgraded transport start payload {
        value := .error (.abortedTransfer sent.length (pageCount payload.length) error)
        session := { start with
          transport := reply.state
          phase := .aborted
          progress := (Progress.start (pageCount payload.length)).advanceAll sent }
        events := .send (headerFrame payload) (.ok ()) ::
          (pageEvents (pageCount payload.length) 0 sent ++
            [.send (dataFrame page) (.error error)]) }
  | completed {mid query reply} :
      Taken transport start.transport
        (headerFrame payload :: (pages payload).map dataFrame) mid →
      Asked transport { start with
        transport := mid
        phase := .queryingInfo
        progress := (Progress.start (pageCount payload.length)).advanceAll (pages payload) }
        query →
      transport.send query.session.transport resetFrame = some reply →
      Upgraded transport start payload {
        value := reply.result
        session := { query.session with
          transport := reply.state
          phase := .completed
          deviceInfo := remembered (reading query.value) }
        events := .send (headerFrame payload) (.ok ()) ::
          (pageEvents (pageCount payload.length) 0 (pages payload) ++
            (query.events ++ [.send resetFrame reply.result])) }

/-- An upgrade announces, sends pages until one is not taken, and otherwise concludes. -/
theorem upgraded_of_upgrade {image payload : Bytes} {session : Session τ}
    {e : Episode τ (Except Error Unit)} (himage : image.imagePayload = .ok payload)
    (h : (upgrade transport image).outline session = some e) :
    Upgraded transport session payload e := by
  unfold upgrade at h
  simp only [himage, outline_introduce_bind, outline_change_bind] at h
  rw [outline_bind, outline_announce, Option.bind_map, Option.bind_eq_some_iff] at h
  obtain ⟨first, hfirst, h⟩ := h
  cases hannounced : first.result with
  | error error =>
      simp only [Function.comp_apply, hannounced, outline_abort, Option.map_some,
        Option.some.injEq] at h
      subst h
      exact .unannounced hfirst hannounced
  | ok =>
      simp only [Function.comp_apply, hannounced] at h
      rw [outline_bind, Option.map_eq_some_iff] at h
      obtain ⟨later, h, rfl⟩ := h
      rw [Option.bind_eq_some_iff] at h
      obtain ⟨stream, hstream, h⟩ := h
      cases streamed_of_sendPages hstream with
      | broken sent page rest hpages htaken hbreak herror =>
          -- the count in the report is the length of what was sent
          have hcount : ((Progress.start (pageCount payload.length)).advanceAll sent).pagesSent =
              sent.length := Nat.zero_add _
          simp only [outline_abort, Option.map_some, Option.some.injEq, hcount, Episode.after,
            List.append_nil] at h
          subst h
          exact .broken sent page rest hpages (.cons hfirst hannounced htaken) hbreak herror
      | through htaken =>
          rw [Option.map_eq_some_iff] at h
          obtain ⟨last, h, rfl⟩ := h
          rw [outline_conclude, outline_queryInfo, Option.bind_map, Option.bind_eq_some_iff] at h
          obtain ⟨query, hquery, h⟩ := h
          obtain ⟨reply, hreset, rfl⟩ := Option.map_eq_some_iff.mp h
          exact .completed (.cons hfirst hannounced htaken) (asked_of_fetch hquery) hreset

/-- An upgrade of an image ends in one of these ways, and what it sends is behind the header
region. -/
theorem upgraded_outline {image : Bytes} {session : Session τ} {e : Episode τ (Except Error Unit)}
    (himage : Image.regionSize ≤ image.length) (h : upgrade transport image session = some e) :
    Upgraded transport session (image.drop Image.regionSize) e.outline :=
  upgraded_of_upgrade (imagePayload_of_le himage) (outline_eq_some h)

end Session

end Reflash
