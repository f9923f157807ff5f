import Reflash.Session.Activity

/-!
# The traffic of a session

`traffic` leaves the records out of a list of events, so that the calls on the transport and the
progress reports remain, in order. `attempts`, `waits` and `reports` are the three kinds of them
on their own. `Activity.outline` does the same to a whole activity: it has the same outcome, with
the traffic for its events. The equations below push `outline` through activities, so that what an
activity does can be calculated without its records.
-/

namespace Reflash.Session

/-- Whether an event is more than a record. -/
def Event.isTraffic : Event → Bool
  | .record _ => false
  | _ => true

/-- The events that are not records, in order. -/
def traffic (events : List Event) : List Event :=
  events.filter Event.isTraffic

/-- The payload that an event handed to the transport, with the result. -/
def Event.attempt? : Event → Option (Bytes × Except Error Unit)
  | .send payload result => some (payload, result)
  | _ => none

/-- The wait for a payload that an event was, with the result. -/
def Event.wait? : Event → Option (Duration × Except Error (Option Bytes))
  | .receive timeout result => some (timeout, result)
  | _ => none

/-- The progress that an event reported. -/
def Event.report? : Event → Option (Nat × Nat)
  | .progress sent total => some (sent, total)
  | _ => none

/-- The payloads handed to the transport, in order, each with its result. -/
def attempts (events : List Event) : List (Bytes × Except Error Unit) :=
  events.filterMap Event.attempt?

/-- The waits for a payload, in order, each with its result. -/
def waits (events : List Event) : List (Duration × Except Error (Option Bytes)) :=
  events.filterMap Event.wait?

/-- The progress reported, in order. -/
def reports (events : List Event) : List (Nat × Nat) :=
  events.filterMap Event.report?

/-- The traffic of events one after the other. -/
@[simp]
theorem traffic_append (first second : List Event) :
    traffic (first ++ second) = traffic first ++ traffic second :=
  List.filter_append first second

/-- The attempts in events one after the other. -/
@[simp]
theorem attempts_append (first second : List Event) :
    attempts (first ++ second) = attempts first ++ attempts second :=
  List.filterMap_append

/-- The waits in events one after the other. -/
@[simp]
theorem waits_append (first second : List Event) :
    waits (first ++ second) = waits first ++ waits second :=
  List.filterMap_append

/-- The reports in events one after the other. -/
@[simp]
theorem reports_append (first second : List Event) :
    reports (first ++ second) = reports first ++ reports second :=
  List.filterMap_append

/-- The records of a call are no traffic. -/
@[simp]
theorem traffic_records (log : List Log.Record) : traffic (log.map .record) = [] := by
  induction log with
  | nil => rfl
  | cons entry log ih => exact ih

/-- What is read off the events can be read off the traffic, if records have no part in it. -/
theorem filterMap_traffic {α : Type} (read : Event → Option α)
    (hread : ∀ entry, read (.record entry) = none) (events : List Event) :
    (traffic events).filterMap read = events.filterMap read := by
  induction events with
  | nil => rfl
  | cons event rest ih =>
      cases event with
      | record entry =>
          rw [List.filterMap_cons_none (hread entry)]
          exact ih
      | progress | send | receive =>
          show List.filterMap read (_ :: traffic rest) = _
          rw [List.filterMap_cons, List.filterMap_cons, ih]

/-- Every attempt is traffic. -/
theorem attempts_traffic (events : List Event) : attempts (traffic events) = attempts events :=
  filterMap_traffic Event.attempt? (fun _ => rfl) events

/-- Every wait is traffic. -/
theorem waits_traffic (events : List Event) : waits (traffic events) = waits events :=
  filterMap_traffic Event.wait? (fun _ => rfl) events

/-- Every report is traffic. -/
theorem reports_traffic (events : List Event) : reports (traffic events) = reports events :=
  filterMap_traffic Event.report? (fun _ => rfl) events

variable {τ α β : Type}

/-- An episode that was preceded by other events. -/
def Episode.after (events : List Event) (e : Episode τ α) : Episode τ α :=
  { e with events := events ++ e.events }

/-- An episode with nothing but traffic. -/
def Episode.outline (e : Episode τ α) : Episode τ α :=
  { e with events := traffic e.events }

/-- An episode that nothing precedes is the episode itself. -/
@[simp]
theorem Episode.map_after_nil (outcome : Option (Episode τ α)) :
    outcome.map (Episode.after []) = outcome := by
  cases outcome <;> rfl

namespace Activity

/-- The activity that does the same without making records. -/
def outline (activity : Activity τ α) : Activity τ α := fun session =>
  (activity session).map Episode.outline

/-- An outcome and its outline exist together. -/
theorem outline_eq_some {activity : Activity τ α} {session : Session τ} {e : Episode τ α}
    (h : activity session = some e) : activity.outline session = some e.outline := by
  unfold outline
  rw [h]
  rfl

/-- Doing one thing after another, written with options. -/
theorem bind_apply (first : Activity τ α) (next : α → Activity τ β) (session : Session τ) :
    (first >>= next) session =
      (first session).bind fun one =>
        (next one.value one.session).map (Episode.after one.events) := by
  show andThen first next session = _
  unfold andThen
  cases first session with
  | none => rfl
  | some one =>
      simp only [Option.bind_some]
      cases next one.value one.session with
      | none => rfl
      | some two => rfl

/-- Nothing changes when activities that follow on one another are grouped in another way. -/
instance : LawfulMonad (Activity τ) := by
  refine LawfulMonad.mk' (Activity τ) ?_ ?_ ?_
  · intro α activity
    funext session
    show (activity >>= pure) session = activity session
    rw [bind_apply]
    cases activity session with
    | none => rfl
    | some e => exact congrArg (fun events => some { e with events }) (List.append_nil e.events)
  · intro α β value next
    funext session
    rw [bind_apply]
    exact Episode.map_after_nil _
  · intro α β γ first next last
    funext session
    simp only [bind_apply]
    cases first session with
    | none => rfl
    | some one =>
        cases hnext : next one.value one.session with
        | none => simp only [Option.bind_some, hnext, Option.map_none, Option.bind_none]
        | some two =>
            simp only [Option.bind_some, hnext, Option.map_some, Option.map_map]
            congr 1
            funext three
            exact congrArg (fun events => { three with events })
              (List.append_assoc one.events two.events three.events)

/-- The outline of one thing after another is put together from the two outlines. -/
theorem outline_bind (first : Activity τ α) (next : α → Activity τ β) (session : Session τ) :
    (first >>= next).outline session =
      (first.outline session).bind fun one =>
        ((next one.value).outline one.session).map (Episode.after one.events) := by
  unfold outline
  rw [bind_apply]
  cases first session with
  | none => rfl
  | some one =>
      show ((next one.value one.session).map (Episode.after one.events)).map Episode.outline =
        ((next one.value one.session).map Episode.outline).map
          (Episode.after (traffic one.events))
      cases next one.value one.session with
      | none => rfl
      | some two =>
          show some (Episode.outline (Episode.after one.events two)) = _
          unfold Episode.outline Episode.after
          rw [traffic_append]
          rfl

/-- Knowing the value makes no traffic. -/
@[simp]
theorem outline_pure (value : α) (session : Session τ) :
    (pure value : Activity τ α).outline session =
      some { value, session, events := [] } := rfl

/-- Making something else of the value changes nothing but the value. -/
theorem outline_bind_pure (activity : Activity τ α) (f : α → β) (session : Session τ) :
    (activity >>= fun value => pure (f value)).outline session =
      (activity.outline session).map fun e =>
        { value := f e.value, session := e.session, events := e.events } := by
  rw [outline_bind]
  cases activity.outline session with
  | none => rfl
  | some e =>
      simp only [Option.bind_some, outline_pure, Option.map_some, Episode.after, List.append_nil]

/-- A record in front is left out. -/
@[simp]
theorem outline_log_bind (level : Log.Level) (text : String) (next : Unit → Activity τ β)
    (session : Session τ) :
    (log level text >>= next).outline session = (next ()).outline session := by
  rw [outline_bind]
  show ((next ()).outline session).map (Episode.after []) = _
  exact Episode.map_after_nil _

/-- A change of the session is made before what follows. -/
@[simp]
theorem outline_change_bind (f : Session τ → Session τ) (next : Unit → Activity τ β)
    (session : Session τ) :
    (change f >>= next).outline session = (next ()).outline (f session) := by
  rw [outline_bind]
  show ((next ()).outline (f session)).map (Episode.after []) = _
  exact Episode.map_after_nil _

/-- What follows on entering a phase is done in this phase. -/
@[simp]
theorem outline_enter_bind (phase : Phase) (next : Unit → Activity τ β) (session : Session τ) :
    (enter phase >>= next).outline session = (next ()).outline { session with phase } :=
  outline_change_bind _ next session

/-- What follows on a look at the session is done with the session that was seen. -/
@[simp]
theorem outline_current_bind (next : Session τ → Activity τ β) (session : Session τ) :
    (current >>= next).outline session = (next session).outline session := by
  rw [outline_bind]
  show ((next session).outline session).map (Episode.after []) = _
  exact Episode.map_after_nil _

/-- A progress report stays in front of what follows. -/
@[simp]
theorem outline_progress_bind (sent total : Nat) (next : Unit → Activity τ β)
    (session : Session τ) :
    (notice (.progress sent total) >>= next).outline session =
      ((next ()).outline session).map (Episode.after [.progress sent total]) := by
  rw [outline_bind]
  rfl

/-- Handing over a payload, in outline. -/
theorem outline_send (transport : Transport τ) (payload : Bytes) (session : Session τ) :
    (send transport payload).outline session =
      (transport.send session.transport payload).map fun reply => {
        value := reply.result
        session := { session with transport := reply.state }
        events := [.send payload reply.result] } := by
  unfold outline send
  cases transport.send session.transport payload with
  | none => rfl
  | some reply =>
      show some (Episode.outline _) = some _
      unfold Episode.outline
      simp only [traffic_append, traffic_records, List.nil_append]
      rfl

/-- Waiting for a payload, in outline. -/
theorem outline_receive (transport : Transport τ) (timeout : Duration) (session : Session τ) :
    (receive transport timeout).outline session =
      (transport.receive session.transport timeout).map fun reply => {
        value := reply.result
        session := { session with transport := reply.state }
        events := [.receive timeout reply.result] } := by
  unfold outline receive
  cases transport.receive session.transport timeout with
  | none => rfl
  | some reply =>
      show some (Episode.outline _) = some _
      unfold Episode.outline
      simp only [traffic_append, traffic_records, List.nil_append]
      rfl

end Activity

end Reflash.Session
