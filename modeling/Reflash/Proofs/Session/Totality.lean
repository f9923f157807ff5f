import Reflash.Proofs.Session.Outcomes

/-!
# Every activity has an outcome

An activity can only be left without an outcome by a call on the transport that does not return.
Over a transport whose calls all return, queries, resets and upgrades of whatever is given to them
come to an end.
-/

namespace Reflash.Session

namespace Activity

variable {τ α β : Type}

/-- The activity has an outcome in every session. -/
def Total (activity : Activity τ α) : Prop :=
  ∀ session, (activity session).isSome

/-- An activity with an outcome has one in outline. -/
theorem isSome_outline {activity : Activity τ α} {session : Session τ}
    (h : (activity session).isSome) : (activity.outline session).isSome := by
  unfold outline
  rw [Option.isSome_map]
  exact h

/-- Making records is no reason to have no outcome. -/
theorem total_of_outline {activity : Activity τ α}
    (h : ∀ session, (activity.outline session).isSome) : activity.Total := by
  intro session
  have houtline := h session
  unfold outline at houtline
  rwa [Option.isSome_map] at houtline

/-- Knowing the value comes to an end. -/
theorem total_pure (value : α) : (pure value : Activity τ α).Total := fun _ => rfl

/-- Activities one after the other come to an end if each of them does, whatever the first one gives
to the second. -/
theorem total_bind {first : Activity τ α} {next : α → Activity τ β} (hfirst : first.Total)
    (hnext : ∀ value, (next value).Total) : (first >>= next).Total := by
  intro session
  show (andThen first next session).isSome
  unfold andThen
  obtain ⟨one, hone⟩ := Option.isSome_iff_exists.mp (hfirst session)
  obtain ⟨two, htwo⟩ := Option.isSome_iff_exists.mp (hnext one.value one.session)
  simp only [hone, htwo, Option.isSome_some]

/-- Looking at the session comes to an end. -/
theorem total_current : (current : Activity τ (Session τ)).Total := fun _ => rfl

/-- Changing the session comes to an end. -/
theorem total_change (f : Session τ → Session τ) : (change f).Total := fun _ => rfl

/-- Entering a phase comes to an end. -/
theorem total_enter (phase : Phase) : (enter phase : Activity τ Unit).Total := fun _ => rfl

/-- Letting something be noticed comes to an end. -/
theorem total_notice (event : Event) : (notice event : Activity τ Unit).Total := fun _ => rfl

/-- Making a record comes to an end. -/
theorem total_log (level : Log.Level) (text : String) :
    (log level text : Activity τ Unit).Total := fun _ => rfl

variable {transport : Transport τ}

/-- Handing over a payload comes to an end, since the transport returns. -/
theorem total_send (h : transport.Returns) (payload : Bytes) : (send transport payload).Total := by
  intro session
  obtain ⟨reply, hreply⟩ := Option.isSome_iff_exists.mp (h.1 session.transport payload)
  unfold send
  rw [hreply]
  rfl

/-- Asking for a payload comes to an end, since the transport returns. -/
theorem total_receive (h : transport.Returns) (timeout : Duration) :
    (receive transport timeout).Total := by
  intro session
  obtain ⟨reply, hreply⟩ := Option.isSome_iff_exists.mp (h.2 session.transport timeout)
  unfold receive
  rw [hreply]
  rfl

end Activity

open Activity

variable {τ : Type} {transport : Transport τ}

/-- Sending a request comes to an end. -/
theorem total_transmit (h : transport.Returns) (request : Request) (payload : Bytes) :
    (transmit transport request payload).Total :=
  total_bind (total_log _ _) fun _ => total_send h _

/-- Asking for the information record comes to an end, with the request or with the wait. -/
theorem total_fetch (h : transport.Returns) : (fetch transport).Total := by
  refine total_bind (total_transmit h _ _) fun result => ?_
  cases result with
  | error error => exact total_pure _
  | ok => exact total_bind total_current fun _ => total_receive h _

/-- A query comes to an end. -/
theorem total_queryInfo (h : transport.Returns) : (queryInfo transport).Total := by
  apply total_of_outline
  intro session
  rw [outline_queryInfo, Option.isSome_map]
  exact isSome_outline (total_fetch h _)

/-- A reset comes to an end. -/
theorem total_reset (h : transport.Returns) : (reset transport).Total :=
  total_bind (total_log _ _) fun _ => total_transmit h _ _

/-- Giving an upgrade up comes to an end. -/
theorem total_abort (source : Error) : (abort source : Activity τ (Except Error Unit)).Total := by
  refine total_bind total_current fun _ => total_bind (total_log _ _) fun _ => ?_
  exact total_bind (total_enter _) fun _ => total_pure _

/-- Introducing an image comes to an end. -/
theorem total_introduce (image : Bytes) : (introduce image : Activity τ Unit).Total := by
  unfold introduce
  split
  · exact total_pure _
  · exact total_log _ _

/-- Announcing a payload comes to an end. -/
theorem total_announce (h : transport.Returns) (payload : Bytes) :
    (announce transport payload).Total := by
  refine total_bind (total_log _ _) fun _ => total_bind (total_enter _) fun _ => ?_
  exact total_transmit h _ _

/-- Sending pages comes to an end, with the first that fails or behind the last. -/
theorem total_sendPages (h : transport.Returns) (number : Nat) (pages : List Bytes) :
    (sendPages transport number pages).Total := by
  induction pages generalizing number with
  | nil => exact total_pure _
  | cons page rest ih =>
      refine total_bind (total_enter _) fun _ => total_bind (total_log _ _) fun _ => ?_
      refine total_bind (total_transmit h _ _) fun result => ?_
      cases result with
      | error error => exact total_pure _
      | ok =>
          refine total_bind (total_change _) fun _ => total_bind total_current fun _ => ?_
          refine total_bind (total_log _ _) fun _ => total_bind (total_notice _) fun _ => ?_
          exact ih (number + 1)

/-- What follows when every page is out comes to an end. -/
theorem total_conclude (h : transport.Returns) : (conclude transport).Total := by
  apply total_of_outline
  intro session
  obtain ⟨query, hquery⟩ :=
    Option.isSome_iff_exists.mp (isSome_outline (total_queryInfo h session))
  -- whatever the query gave, the send of the reset returns
  rw [outline_conclude, hquery, Option.bind_some, Option.isSome_map]
  exact h.1 _ _

/-- Over a transport whose calls return, every upgrade comes to an end. -/
theorem total_upgrade (h : transport.Returns) (image : Bytes) :
    (upgrade transport image).Total := by
  unfold upgrade
  split
  · exact total_pure _
  · refine total_bind (total_introduce image) fun _ => total_bind (total_change _) fun _ => ?_
    refine total_bind (total_announce h _) fun announced => ?_
    cases announced with
    | error error => exact total_abort error
    | ok =>
        refine total_bind (total_sendPages h _ _) fun streamed => ?_
        cases streamed with
        | error error => exact total_abort error
        | ok => exact total_conclude h

end Reflash.Session
