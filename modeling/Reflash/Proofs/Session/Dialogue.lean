import Reflash.Proofs.Session.Outcomes

/-!
# What passes between a session and its transport

The events of an activity are a list that the activity makes, and what is said of frames, waits and
results is read off this list. `Dialogue` ties the list to the transport: it is nothing but calls on
the transport, one after the other, each with the result that it had there, and reports of progress
in between. Since the calls lead from the transport before the activity to the one after it, there are
no others. `Episode.IsDialogue` says this of an episode; it holds of every upgrade and every query
(`dialogue_of_upgrade`, `dialogue_of_queryInfo`), whatever the transport is and however they end.
-/

namespace Reflash.Session

open Activity

variable {τ α : Type} {transport : Transport τ}

/-- The events are what passes between a session and its transport on the way from one state of the
transport to another. -/
inductive Dialogue (transport : Transport τ) : τ → List Event → τ → Prop where
  | nil (state) : Dialogue transport state [] state
  | progress {state sent total events final} : Dialogue transport state events final →
      Dialogue transport state (.progress sent total :: events) final
  | send {state frame reply events final} : transport.send state frame = some reply →
      Dialogue transport reply.state events final →
      Dialogue transport state (.send frame reply.result :: events) final
  | receive {state timeout reply events final} : transport.receive state timeout = some reply →
      Dialogue transport reply.state events final →
      Dialogue transport state (.receive timeout reply.result :: events) final

/-- The traffic of an episode is what passed between the session and its transport. -/
def Episode.IsDialogue (transport : Transport τ) (start : Session τ) (e : Episode τ α) : Prop :=
  Dialogue transport start.transport (traffic e.events) e.session.transport

/-- A dialogue goes on where another one came to its end. -/
theorem Dialogue.append {state mid final : τ} {first second : List Event}
    (hfirst : Dialogue transport state first mid) (hsecond : Dialogue transport mid second final) :
    Dialogue transport state (first ++ second) final := by
  induction hfirst with
  | nil => exact hsecond
  | progress _ ih => exact .progress (ih hsecond)
  | send hsend _ ih => exact .send hsend (ih hsecond)
  | receive hreceive _ ih => exact .receive hreceive (ih hsecond)

/-- One send, with the result that it is known to have. -/
theorem Dialogue.single {state : τ} {frame : Bytes} {reply : Reply τ Unit}
    {result : Except Error Unit} (hsend : transport.send state frame = some reply)
    (hresult : reply.result = result) :
    Dialogue transport state [.send frame result] reply.state := by
  rw [← hresult]
  exact .send hsend (.nil _)

/-- Pages that are all taken are sent one after the other, with a report behind each. -/
theorem dialogue_of_taken {state final : τ} {pages : List Bytes} (total sent : Nat)
    (h : Taken transport state (pages.map dataFrame) final) :
    Dialogue transport state (pageEvents total sent pages) final := by
  induction pages generalizing state sent with
  | nil =>
      cases h
      exact .nil _
  | cons page rest ih =>
      cases h with
      | cons hsend hresult hrest =>
          exact (Dialogue.single hsend hresult).append (.progress (ih (sent + 1) hrest))

/-- A query that was asked is one send, and one wait if the request was taken. -/
theorem Asked.dialogue {start : Session τ} {e : Episode τ (Except Error (Option Bytes))}
    (h : Asked transport start e) :
    Dialogue transport start.transport e.events e.session.transport := by
  cases h with
  | unsent hsend hresult => exact .single hsend hresult
  | sent hsend hresult hreceive =>
      exact (Dialogue.single hsend hresult).append (.receive hreceive (.nil _))

/-- However an upgrade ends, its calls follow on one another. -/
theorem Upgraded.dialogue {start : Session τ} {payload : Bytes}
    {e : Episode τ (Except Error Unit)} (h : Upgraded transport start payload e) :
    Dialogue transport start.transport e.events e.session.transport := by
  -- the announcement that was taken, and the pages after it
  have hbegin : ∀ {frames : List Bytes} {mid : τ},
      Taken transport start.transport (headerFrame payload :: frames.map dataFrame) mid →
        Dialogue transport start.transport (.send (headerFrame payload) (.ok ()) ::
          pageEvents (pageCount payload.length) 0 frames) mid := by
    intro frames mid htaken
    cases htaken with
    | cons hsend hresult hrest =>
        exact (Dialogue.single hsend hresult).append (dialogue_of_taken _ _ hrest)
  cases h with
  | unannounced hsend hresult => exact .single hsend hresult
  | broken sent page rest hpages htaken hsend hresult =>
      exact (hbegin htaken).append (.single hsend hresult)
  | completed htaken hasked hreset =>
      exact (hbegin htaken).append (hasked.dialogue.append (.single hreset rfl))

/-- The traffic of an upgrade is the calls that it makes on the transport. -/
theorem dialogue_of_upgrade {image : Bytes} {session : Session τ} {e : Episode τ (Except Error Unit)}
    (himage : Image.regionSize ≤ image.length) (h : upgrade transport image session = some e) :
    e.IsDialogue transport session :=
  (upgraded_outline himage h).dialogue

/-- The traffic of a query is the calls that it makes on the transport. -/
theorem dialogue_of_queryInfo {session : Session τ}
    {e : Episode τ (Except Error (Option DeviceInfo))} (h : queryInfo transport session = some e) :
    e.IsDialogue transport session := by
  have houtline := outline_eq_some h
  rw [outline_queryInfo, Option.map_eq_some_iff] at houtline
  obtain ⟨query, hquery, houtline⟩ := houtline
  show Dialogue transport _ e.outline.events e.outline.session.transport
  rw [← houtline]
  exact (asked_of_fetch hquery).dialogue

end Reflash.Session
