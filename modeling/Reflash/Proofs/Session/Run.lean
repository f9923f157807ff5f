import Reflash.Proofs.Session.Order

/-!
# Runs of a session

A run is one operation on a session after the other, in whatever order. Besides the requests to
the device these are new settings and direct use of the transport, which may do anything to it.
`Performed` says once for every operation what it can do, and `Sends` which frames it can hand to
the transport in it; `sends_of_mem_run` says that no turn of a run hands over anything else, and
`dialogue_of_mem_run` that what a turn did is calls on the transport.
-/

namespace Reflash.Session

open Activity

/-- Something that the owner of a session can do with it. -/
inductive Operation (τ : Type) where
  /-- Ask the device for its information record. -/
  | query
  /-- Stream an image to the device and reset it. -/
  | upgrade (image : Bytes)
  /-- Reboot the device. -/
  | reset
  /-- Go on with other settings. -/
  | configure (config : Config)
  /-- Use the transport without the session. -/
  | bypass (f : τ → τ)

/-- What the owner gets back. -/
inductive Answer where
  | info (result : Except Error (Option DeviceInfo))
  | done (result : Except Error Unit)

variable {τ : Type}

/-- What the session does in an operation. -/
def perform (transport : Transport τ) : Operation τ → Activity τ Answer
  | .query => queryInfo transport >>= fun result => pure (.info result)
  | .upgrade image => upgrade transport image >>= fun result => pure (.done result)
  | .reset => reset transport >>= fun result => pure (.done result)
  | .configure config => do
    change fun session => session.withConfig config
    return .done (.ok ())
  | .bypass f => do
    change fun session => { session with transport := f session.transport }
    return .done (.ok ())

/-- One operation of a run. -/
structure Turn (τ : Type) where
  operation : Operation τ
  /-- The session before. -/
  start : Session τ
  /-- How the operation ended. -/
  episode : Episode τ Answer

/-- One operation after the other on the same session. A run has no outcome if one of its
operations has none. -/
def run (transport : Transport τ) : List (Operation τ) → Session τ → Option (List (Turn τ))
  | [], _ => some []
  | operation :: rest, session =>
    match perform transport operation session with
    | none => none
    | some episode =>
      (run transport rest episode.session).map ({ operation, start := session, episode } :: ·)

/-- The frames that a turn handed to the transport, each with its result. -/
def Turn.sends (turn : Turn τ) : List (Bytes × Except Error Unit) :=
  attempts turn.episode.events

/-- The frames handed to the transport in several turns. -/
def sendsOf (turns : List (Turn τ)) : List (Bytes × Except Error Unit) :=
  turns.flatMap Turn.sends

variable {transport : Transport τ}

/-! ## From one operation to a run -/

/-- A run that has an outcome begins with its first operation. -/
theorem run_cons_eq_some {operation : Operation τ} {rest : List (Operation τ)}
    {session : Session τ} {turns : List (Turn τ)}
    (h : run transport (operation :: rest) session = some turns) :
    ∃ episode others, perform transport operation session = some episode ∧
      run transport rest episode.session = some others ∧
      turns = { operation, start := session, episode } :: others := by
  unfold run at h
  cases hfirst : perform transport operation session with
  | none =>
      rw [hfirst] at h
      cases h
  | some episode =>
      rw [hfirst] at h
      obtain ⟨others, hothers, rfl⟩ := Option.map_eq_some_iff.mp h
      exact ⟨episode, others, rfl, hothers, rfl⟩

/-- Every operation has its turn. -/
theorem operations_of_run {operations : List (Operation τ)} {session : Session τ}
    {turns : List (Turn τ)} (h : run transport operations session = some turns) :
    turns.map Turn.operation = operations := by
  induction operations generalizing session turns with
  | nil =>
      cases h
      rfl
  | cons operation rest ih =>
      obtain ⟨episode, others, _, hothers, rfl⟩ := run_cons_eq_some h
      rw [List.map_cons, ih hothers]

/-- Every turn performs its operation. -/
theorem performed_of_mem_run {operations : List (Operation τ)} {session : Session τ}
    {turns : List (Turn τ)} (h : run transport operations session = some turns)
    {turn : Turn τ} (hturn : turn ∈ turns) :
    perform transport turn.operation turn.start = some turn.episode := by
  induction operations generalizing session turns with
  | nil =>
      cases h
      cases hturn
  | cons operation rest ih =>
      obtain ⟨episode, others, hfirst, hothers, rfl⟩ := run_cons_eq_some h
      rcases List.mem_cons.mp hturn with rfl | hlater
      · exact hfirst
      · exact ih hothers hlater

/-- Every operation comes to an end. -/
theorem total_perform (h : transport.Returns) (operation : Operation τ) :
    (perform transport operation).Total := by
  cases operation with
  | query => exact total_bind (total_queryInfo h) fun _ => total_pure _
  | upgrade image => exact total_bind (total_upgrade h image) fun _ => total_pure _
  | reset => exact total_bind (total_reset h) fun _ => total_pure _
  | configure config => exact total_bind (total_change _) fun _ => total_pure _
  | bypass f => exact total_bind (total_change _) fun _ => total_pure _

/-- Over a transport whose calls return, every run comes to an end. -/
theorem isSome_run (h : transport.Returns) (operations : List (Operation τ))
    (session : Session τ) : (run transport operations session).isSome := by
  induction operations generalizing session with
  | nil => rfl
  | cons operation rest ih =>
      obtain ⟨episode, hepisode⟩ :=
        Option.isSome_iff_exists.mp (total_perform h operation session)
      unfold run
      rw [hepisode]
      dsimp only
      rw [Option.isSome_map]
      exact ih episode.session

/-! ## What an operation can do -/

/-- What is too short for a header region is no image. -/
theorem imagePayload_of_lt {image : Bytes} (h : image.length < Image.regionSize) :
    image.imagePayload =
      .error (.invalidImage (.short image.length Image.regionSize)) := by
  unfold Bytes.imagePayload
  rw [Image.ofBytes_of_lt h]
  rfl

/-- What each operation can do, in outline. -/
inductive Performed (transport : Transport τ) (start : Session τ) :
    Operation τ → Episode τ Answer → Prop where
  | query {query} : Asked transport { start with phase := .queryingInfo } query →
      Performed transport start .query {
        value := .info (reading query.value)
        session := { query.session with
          phase := start.phase
          deviceInfo := remembered (reading query.value) }
        events := query.events }
  | refused {image} : image.length < Image.regionSize →
      Performed transport start (.upgrade image) {
        value := .done (.error (.invalidImage (.short image.length Image.regionSize)))
        session := start
        events := [] }
  | upgrade {image upgraded} : Image.regionSize ≤ image.length →
      Upgraded transport start (image.drop Image.regionSize) upgraded →
      Performed transport start (.upgrade image) {
        value := .done upgraded.value
        session := upgraded.session
        events := upgraded.events }
  | reset {reply} : transport.send start.transport resetFrame = some reply →
      Performed transport start .reset {
        value := .done reply.result
        session := { start with transport := reply.state }
        events := [.send resetFrame reply.result] }
  | configure (config) :
      Performed transport start (.configure config) {
        value := .done (.ok ())
        session := start.withConfig config
        events := [] }
  | bypass (f) :
      Performed transport start (.bypass f) {
        value := .done (.ok ())
        session := { start with transport := f start.transport }
        events := [] }

/-- No operation does anything else. -/
theorem performed_of_perform {operation : Operation τ} {session : Session τ}
    {e : Episode τ Answer} (h : perform transport operation session = some e) :
    Performed transport session operation e.outline := by
  have houtline := outline_eq_some h
  generalize e.outline = e at houtline
  cases operation with
  | query =>
      unfold perform at houtline
      rw [outline_bind_pure, outline_queryInfo, Option.map_map,
        Option.map_eq_some_iff] at houtline
      obtain ⟨query, hquery, rfl⟩ := houtline
      exact .query (asked_of_fetch hquery)
  | upgrade image =>
      unfold perform at houtline
      rw [outline_bind_pure, Option.map_eq_some_iff] at houtline
      obtain ⟨upgraded, hupgraded, rfl⟩ := houtline
      rcases Nat.lt_or_ge image.length Image.regionSize with hshort | hlong
      · unfold upgrade at hupgraded
        rw [imagePayload_of_lt hshort] at hupgraded
        cases hupgraded
        exact .refused hshort
      · exact .upgrade hlong (upgraded_of_upgrade (imagePayload_of_le hlong) hupgraded)
  | reset =>
      unfold perform at houtline
      rw [outline_bind_pure, outline_reset, Option.map_map, Option.map_eq_some_iff] at houtline
      obtain ⟨reply, hreset, rfl⟩ := houtline
      exact .reset hreset
  | configure config =>
      cases houtline
      exact .configure config
  | bypass f =>
      cases houtline
      exact .bypass f

/-! ## What an operation says to the transport -/

/-- The traffic of an operation is the calls that it makes, unless it goes round the session. -/
theorem dialogue_of_perform {operation : Operation τ} {session : Session τ}
    {e : Episode τ Answer} (h : perform transport operation session = some e)
    (hdirect : ∀ f, operation ≠ .bypass f) : e.IsDialogue transport session := by
  have hperformed := performed_of_perform h
  show Dialogue transport _ e.outline.events e.outline.session.transport
  generalize e.outline = outline at hperformed ⊢
  cases hperformed with
  | query hasked => exact hasked.dialogue
  | upgrade _ hupgraded => exact hupgraded.dialogue
  | reset hsend => exact .single hsend rfl
  | refused | configure => exact .nil _
  | bypass f => exact absurd rfl (hdirect f)

/-- The traffic of a turn is what passed between the session and its transport, unless the transport
was used without the session. -/
def Turn.IsDialogue (transport : Transport τ) (turn : Turn τ) : Prop :=
  (∀ f, turn.operation ≠ .bypass f) → turn.episode.IsDialogue transport turn.start

/-- So it is in every turn of a run. -/
theorem dialogue_of_mem_run {operations : List (Operation τ)} {session : Session τ}
    {turns : List (Turn τ)} (h : run transport operations session = some turns)
    {turn : Turn τ} (hturn : turn ∈ turns) : turn.IsDialogue transport :=
  dialogue_of_perform (performed_of_mem_run h hturn)

/-! ## What an operation sends -/

/-- The frames that each operation can hand to the transport. -/
inductive Sends : Operation τ → List (Bytes × Except Error Unit) → Prop where
  | query (result) : Sends .query [(infoFrame, result)]
  | refused {image} : image.length < Image.regionSize → Sends (.upgrade image) []
  | upgrade {image sends} : Image.regionSize ≤ image.length →
      Course (image.drop Image.regionSize) sends → Sends (.upgrade image) sends
  | reset (result) : Sends .reset [(resetFrame, result)]
  | configure (config) : Sends (.configure config) []
  | bypass (f) : Sends (.bypass f) []

/-- No operation hands over anything else. -/
theorem sends_of_perform {operation : Operation τ} {session : Session τ}
    {e : Episode τ Answer} (h : perform transport operation session = some e) :
    Sends operation (attempts e.events) := by
  -- records are no attempts, so the outline has the same ones
  have hperformed := performed_of_perform h
  rw [← attempts_traffic]
  show Sends operation (attempts e.outline.events)
  generalize e.outline = outline at hperformed ⊢
  cases hperformed with
  | query hasked =>
      obtain ⟨result, hsends⟩ := attempts_of_asked hasked
      rw [hsends]
      exact .query result
  | refused hshort => exact .refused hshort
  | upgrade hlong hupgraded => exact .upgrade hlong (course_of_upgraded hupgraded)
  | reset => exact .reset _
  | configure config => exact .configure config
  | bypass f => exact .bypass f

/-- No turn of a run hands over anything else than its operation can. -/
theorem sends_of_mem_run {operations : List (Operation τ)} {session : Session τ}
    {turns : List (Turn τ)} (h : run transport operations session = some turns)
    {turn : Turn τ} (hturn : turn ∈ turns) : Sends turn.operation turn.sends :=
  sends_of_perform (performed_of_mem_run h hturn)

end Reflash.Session
