import Reflash.Proofs.Frame.Damage
import Reflash.Proofs.Session.Run

/-!
# How long a frame can get

The length field of a frame has 32 bits, and `Frame.ofRequest?` refuses a payload whose length does
not fit. A session never comes near this: whatever it is asked to do, over whatever transport, none of
its frames carries more than a page, so all of them can be made (`frame_of_mem_sendsOf`).

A run that has no outcome has no frames to look at. `run_congr` covers it too: no session finds out
what its transport would do with a longer frame, not even by waiting forever for the call to return.
-/

namespace Reflash

/-- The frame of a request, unless its length field cannot hold the length of the payload. -/
def Frame.ofRequest? (request : Request) (payload : Bytes) : Option Frame :=
  if payload.length < UInt32.size then some (.ofRequest request payload) else none

/-- There is a frame for whatever fits into a page. -/
theorem Frame.ofRequest?_of_le {payload : Bytes} (h : payload.length ≤ pageSize)
    (request : Request) : Frame.ofRequest? request payload = some (.ofRequest request payload) :=
  if_pos (Nat.lt_of_le_of_lt h (by decide))

/-- The length of a frame that carries a full page. -/
def maxFrame : Nat := Preamble.size + pageSize

/-- A frame that carries no more than a page is not longer than the longest frame. -/
theorem length_encode_le_maxFrame {payload : Bytes} (h : payload.length ≤ pageSize)
    (request : Request) : (request.encode payload).length ≤ maxFrame := by
  rw [Frame.length_encode]
  exact Nat.add_le_add_left h _

/-- The two transports do the same, except perhaps with frames that are longer than the limit. -/
structure Transport.AgreeUpTo {τ : Type} (limit : Nat) (transport other : Transport τ) : Prop where
  send_eq : ∀ state frame, frame.length ≤ limit →
    other.send state frame = transport.send state frame
  receive_eq : other.receive = transport.receive

namespace Session

open Activity

variable {τ : Type} {transport other : Transport τ}

/-! ## The frames of a run -/

/-- The frames of an operation carry at most a page. -/
theorem Sends.exists_request {operation : Operation τ} {sends : List (Bytes × Except Error Unit)}
    (h : Sends operation sends) {frame : Bytes} (hframe : frame ∈ sends.map Prod.fst) :
    ∃ request data, frame = Request.encode request data ∧ data.length ≤ pageSize := by
  cases h with
  | query =>
      rw [List.map_singleton, List.mem_singleton] at hframe
      exact ⟨.info, [], hframe, Nat.zero_le _⟩
  | reset =>
      rw [List.map_singleton, List.mem_singleton] at hframe
      exact ⟨.reset, [], hframe, Nat.zero_le _⟩
  | upgrade _ hcourse =>
      rcases List.mem_append.mp (hcourse.frames_in_order.subset hframe) with htransfer | hclosing
      · obtain ⟨request, data, hencode, hlength, _⟩ := request_of_mem_transferFrames htransfer
        exact ⟨request, data, hencode, hlength⟩
      · rw [List.mem_pair] at hclosing
        rcases hclosing with rfl | rfl
        · exact ⟨.info, [], rfl, Nat.zero_le _⟩
        · exact ⟨.reset, [], rfl, Nat.zero_le _⟩
  | refused | configure | bypass => cases hframe

/-- Whatever a session hands over, it is a frame that can be made, and no longer than a frame with a
full page. -/
theorem frame_of_mem_sendsOf {operations : List (Operation τ)} {session : Session τ}
    {turns : List (Turn τ)} (h : run transport operations session = some turns) {frame : Bytes}
    (hframe : frame ∈ (sendsOf turns).map Prod.fst) :
    ∃ request data message, Frame.ofRequest? request data = some message ∧
      frame = message.encode ∧ frame.length ≤ maxFrame := by
  obtain ⟨send, hsend, rfl⟩ := List.mem_map.mp hframe
  obtain ⟨turn, hturn, hsend⟩ := List.mem_flatMap.mp hsend
  obtain ⟨request, data, hencode, hlength⟩ :=
    (sends_of_mem_run h hturn).exists_request (List.mem_map_of_mem hsend)
  refine ⟨request, data, _, Frame.ofRequest?_of_le hlength request, hencode, ?_⟩
  rw [hencode]
  exact length_encode_le_maxFrame hlength request

/-! ## What a session cannot find out -/

section Agree

variable (h : transport.AgreeUpTo maxFrame other)

include h

/-- A request with no more than a page for its payload goes alike over both transports. -/
theorem transmit_congr {payload : Bytes} (hpayload : payload.length ≤ pageSize)
    (request : Request) : transmit other request payload = transmit transport request payload := by
  have hsend : send other (request.encode payload) = send transport (request.encode payload) := by
    funext session
    unfold send
    rw [h.send_eq _ _ (length_encode_le_maxFrame hpayload request)]
  unfold transmit
  simp only [hsend]

/-- Asking for the information record goes alike, and so does waiting for the response. -/
theorem fetch_congr : fetch other = fetch transport := by
  have hreceive : receive other = receive transport := by
    funext timeout session
    unfold receive
    rw [h.receive_eq]
  unfold fetch
  rw [transmit_congr h (Nat.zero_le _), hreceive]

/-- A query goes alike over both transports. -/
theorem queryInfo_congr : queryInfo other = queryInfo transport := by
  unfold queryInfo fetchInfo
  rw [fetch_congr h]

/-- A reset goes alike over both transports. -/
theorem reset_congr : reset other = reset transport := by
  unfold reset
  rw [transmit_congr h (Nat.zero_le _)]

/-- An announcement goes alike over both transports, whatever is announced. -/
theorem announce_congr (payload : Bytes) : announce other payload = announce transport payload := by
  have hlength : (Announcement.ofPayload payload).encode.length ≤ pageSize := by
    rw [Announcement.length_encode]
    decide
  unfold announce
  simp only [transmit_congr h hlength]

/-- Pages of the right size go alike over both transports. -/
theorem sendPages_congr {pages : List Bytes} (hpages : ∀ page ∈ pages, page.length ≤ pageSize)
    (number : Nat) : sendPages other number pages = sendPages transport number pages := by
  induction pages generalizing number with
  | nil => rfl
  | cons page rest ih =>
      rw [List.forall_mem_cons] at hpages
      unfold sendPages
      rw [transmit_congr h hpages.1, ih hpages.2]

/-- What follows when every page is out goes alike over both transports. -/
theorem conclude_congr : conclude other = conclude transport := by
  unfold conclude
  rw [queryInfo_congr h, reset_congr h]

/-- An upgrade goes alike over both transports, since its pages are of the right size. -/
theorem upgrade_congr (image : Bytes) : upgrade other image = upgrade transport image := by
  unfold upgrade
  simp only [announce_congr h, sendPages_congr h fun _ => length_le_of_mem_pages,
    conclude_congr h]

/-- So does every operation. -/
theorem perform_congr (operation : Operation τ) :
    perform other operation = perform transport operation := by
  cases operation with
  | query => rw [perform, queryInfo_congr h, perform]
  | upgrade image => rw [perform, upgrade_congr h, perform]
  | reset => rw [perform, reset_congr h, perform]
  | configure | bypass => rfl

/-- What a transport would do with longer frames makes no difference to any run. -/
theorem run_congr (operations : List (Operation τ)) (session : Session τ) :
    run other operations session = run transport operations session := by
  induction operations generalizing session with
  | nil => rfl
  | cons operation rest ih =>
      unfold run
      simp only [perform_congr h, ih]

end Agree

end Session

end Reflash
