import Reflash.Proofs.Session.Run

/-!
# What a device gets to see

`Receiver` is a device that believes what it is told: an announcement empties its buffer, a page
goes to the end of it. `run_delivers_images` says what becomes of such a device in a run of any
operations over any transport. Whenever an upgrade resets it, the buffer holds exactly the image
of this upgrade, and length and checksum are the announced ones, whatever earlier upgrades left
behind.
-/

namespace Reflash.Session

/-! ## The receiver -/

/-- The request and the payload that a frame carries, if it is decoded and the request known. -/
def messageOf? (frame : Bytes) : Option (Request × Bytes) :=
  match Frame.decode frame with
  | .error _ => none
  | .ok message => message.request?.map fun request => (request, message.payload)

/-- The page that a frame carries, if it carries one. -/
def pageOf? (frame : Bytes) : Option Bytes :=
  match messageOf? frame with
  | some (.data, data) => some data
  | _ => none

/-- The pages that frames carry, in order. -/
def pagesIn (frames : List Bytes) : List Bytes :=
  frames.filterMap pageOf?

/-- What a device keeps of the frames that it gets. -/
structure Receiver where
  /-- The announcement that came last. -/
  announced : Option Announcement
  /-- The pages that came after it. -/
  buffer : Bytes

namespace Receiver

/-- Announcements empty the buffer and pages fill it. -/
def handle (receiver : Receiver) : Request → Bytes → Receiver
  | .header, data => { announced := (Announcement.decode data).toOption, buffer := [] }
  | .data, data => { receiver with buffer := receiver.buffer ++ data }
  | .info, _ => receiver
  | .reset, _ => receiver

/-- Gets one frame. What cannot be decoded is ignored. -/
def accept (receiver : Receiver) (frame : Bytes) : Receiver :=
  match messageOf? frame with
  | none => receiver
  | some (request, data) => receiver.handle request data

/-- Gets one frame after the other. -/
def acceptAll (receiver : Receiver) (frames : List Bytes) : Receiver :=
  frames.foldl accept receiver

/-- The receiver that got exactly one announcement, of a payload, and the payload. -/
def holding (payload : Bytes) : Receiver where
  announced := some (.ofPayload payload)
  buffer := payload

end Receiver

/-- The frame of an attempt, if the transport took it. -/
def delivered? : Bytes × Except Error Unit → Option Bytes
  | (frame, .ok ()) => some frame
  | (_, .error _) => none

/-- The frames that the transport took, in order. -/
def delivered (sends : List (Bytes × Except Error Unit)) : List Bytes :=
  sends.filterMap delivered?

/-- What is delivered by sends one after the other, in order. -/
theorem delivered_append (first second : List (Bytes × Except Error Unit)) :
    delivered (first ++ second) = delivered first ++ delivered second :=
  List.filterMap_append

/-- Frames that are all taken are all delivered. -/
theorem delivered_map_taken (frames : List Bytes) : delivered (frames.map taken) = frames := by
  unfold delivered
  rw [List.filterMap_map]
  exact List.filterMap_some

/-- The pages in frames one after the other, in order. -/
theorem pagesIn_append (first second : List Bytes) :
    pagesIn (first ++ second) = pagesIn first ++ pagesIn second :=
  List.filterMap_append

/-! ## Single frames -/

/-- What a frame carries is what it is decoded to. -/
theorem messageOf?_eq_some_iff {frame data : Bytes} {request : Request} :
    messageOf? frame = some (request, data) ↔
      ∃ message, Frame.decode frame = .ok message ∧ message.request? = some request ∧
        message.payload = data := by
  unfold messageOf?
  cases Frame.decode frame with
  | error error => simp
  | ok message =>
      simp only [Option.map_eq_some_iff, Prod.mk.injEq, Except.ok.injEq, exists_eq_left']
      constructor
      · rintro ⟨_, hknown, rfl, hdata⟩
        exact ⟨hknown, hdata⟩
      · rintro ⟨hknown, hdata⟩
        exact ⟨request, hknown, rfl, hdata⟩

/-- A frame of a payload below 4 GiB carries its request and its payload. -/
theorem messageOf?_encode (request : Request) {data : Bytes} (hsize : data.length < 2 ^ 32) :
    messageOf? (request.encode data) = some (request, data) := by
  have hdecode := Frame.decode_request_append request data [] hsize
  rw [List.append_nil] at hdecode
  unfold messageOf?
  rw [hdecode]
  show (Frame.request? _).map _ = _
  rw [Frame.request?_ofRequest]
  rfl

/-- The payload of a data request is a page. -/
theorem pageOf?_of_data {frame data : Bytes} (h : messageOf? frame = some (.data, data)) :
    pageOf? frame = some data := by
  unfold pageOf?
  rw [h]

/-- A frame of another request holds no page. -/
theorem pageOf?_of_ne_data {frame data : Bytes} {request : Request}
    (h : messageOf? frame = some (request, data)) (hrequest : request ≠ .data) :
    pageOf? frame = none := by
  unfold pageOf?
  rw [h]
  cases request with
  | data => exact absurd rfl hrequest
  | info | reset | header => rfl

/-- A known frame is handled. -/
theorem Receiver.accept_eq (receiver : Receiver) {frame data : Bytes} {request : Request}
    (h : messageOf? frame = some (request, data)) :
    receiver.accept frame = receiver.handle request data := by
  unfold accept
  rw [h]

/-- A frame that holds a message is decoded and carries a request that is known. -/
theorem known_of_messageOf? {frame data : Bytes} {request : Request}
    (h : messageOf? frame = some (request, data)) :
    ∃ message request, Frame.decode frame = .ok message ∧ message.request? = some request := by
  obtain ⟨message, hdecode, hknown, _⟩ := messageOf?_eq_some_iff.mp h
  exact ⟨message, request, hdecode, hknown⟩

/-- The query holds its request. -/
theorem messageOf?_infoFrame : messageOf? infoFrame = some (.info, []) :=
  messageOf?_encode .info (by decide)

/-- The reset holds its request. -/
theorem messageOf?_resetFrame : messageOf? resetFrame = some (.reset, []) :=
  messageOf?_encode .reset (by decide)

/-- The announcement holds its request and what is announced. -/
theorem messageOf?_headerFrame (payload : Bytes) :
    messageOf? (headerFrame payload) =
      some (.header, (Announcement.ofPayload payload).encode) :=
  messageOf?_encode .header (by rw [Announcement.length_encode]; decide)

/-- The frame of a page holds its request and the page. -/
theorem messageOf?_dataFrame {data : Bytes} (h : data.length ≤ pageSize) :
    messageOf? (dataFrame data) = some (.data, data) :=
  messageOf?_encode .data (Nat.lt_of_le_of_lt h (by decide))

/-- So the page is found in its frame. -/
theorem pageOf?_dataFrame {data : Bytes} (h : data.length ≤ pageSize) :
    pageOf? (dataFrame data) = some data :=
  pageOf?_of_data (messageOf?_dataFrame h)

/-- No page is found in the announcement. -/
theorem pageOf?_headerFrame (payload : Bytes) : pageOf? (headerFrame payload) = none :=
  pageOf?_of_ne_data (messageOf?_headerFrame payload) (by decide)

/-- No pages are found in the frames that conclude an upgrade. -/
theorem pagesIn_infoFrame_resetFrame : pagesIn [infoFrame, resetFrame] = [] := by
  unfold pagesIn
  rw [List.filterMap_cons_none (pageOf?_of_ne_data messageOf?_infoFrame (by decide)),
    List.filterMap_cons_none (pageOf?_of_ne_data messageOf?_resetFrame (by decide)),
    List.filterMap_nil]

/-! ## The frames of a transfer -/

/-- The pages come out of their frames as they went in. -/
theorem pagesIn_map_dataFrame {pages : List Bytes} (h : ∀ data ∈ pages, data.length ≤ pageSize) :
    pagesIn (pages.map dataFrame) = pages := by
  induction pages with
  | nil => rfl
  | cons data rest ih =>
      obtain ⟨hdata, hrest⟩ := List.forall_mem_cons.mp h
      unfold pagesIn at *
      rw [List.map_cons, List.filterMap_cons_some (pageOf?_dataFrame hdata), ih hrest]

/-- The pages in the frames of a transfer are those of the payload. -/
theorem pagesIn_transferFrames (payload : Bytes) :
    pagesIn (transferFrames payload) = pages payload := by
  have hpages : pagesIn ((pages payload).map dataFrame) = pages payload :=
    pagesIn_map_dataFrame fun _ => length_le_of_mem_pages
  unfold pagesIn at *
  rw [transferFrames_eq, List.filterMap_cons_none (pageOf?_headerFrame payload), hpages]

namespace Receiver

/-- Without frames a device stays as it is. -/
@[simp]
theorem acceptAll_nil (receiver : Receiver) : receiver.acceptAll [] = receiver := rfl

/-- A device gets one frame after the other. -/
theorem acceptAll_cons (receiver : Receiver) (frame : Bytes) (rest : List Bytes) :
    receiver.acceptAll (frame :: rest) = (receiver.accept frame).acceptAll rest := rfl

/-- A device can get its frames in two goes. -/
theorem acceptAll_append (receiver : Receiver) (first second : List Bytes) :
    receiver.acceptAll (first ++ second) = (receiver.acceptAll first).acceptAll second :=
  List.foldl_append

/-- A query changes nothing in the device. -/
theorem accept_infoFrame (receiver : Receiver) : receiver.accept infoFrame = receiver :=
  receiver.accept_eq messageOf?_infoFrame

/-- After the announcement of a payload nothing is left of what came before it. -/
theorem accept_headerFrame (receiver : Receiver) (payload : Bytes) :
    receiver.accept (headerFrame payload) =
      { announced := some (.ofPayload payload), buffer := [] } := by
  rw [receiver.accept_eq (messageOf?_headerFrame payload)]
  dsimp only [handle]
  rw [Announcement.decode_encode]
  rfl

/-- Pages are put together in the buffer. -/
theorem acceptAll_map_dataFrame (receiver : Receiver) {pages : List Bytes}
    (h : ∀ data ∈ pages, data.length ≤ pageSize) :
    receiver.acceptAll (pages.map dataFrame) =
      { receiver with buffer := receiver.buffer ++ pages.flatten } := by
  induction pages generalizing receiver with
  | nil =>
      rw [List.flatten_nil, List.append_nil]
      rfl
  | cons data rest ih =>
      obtain ⟨hdata, hrest⟩ := List.forall_mem_cons.mp h
      have hfirst : receiver.accept (dataFrame data) =
          { receiver with buffer := receiver.buffer ++ data } :=
        receiver.accept_eq (messageOf?_dataFrame hdata)
      rw [List.map_cons, acceptAll_cons, hfirst, ih _ hrest, List.flatten_cons, List.append_assoc]

/-- A transfer leaves its payload in the buffer, whatever was there before. -/
theorem acceptAll_transferFrames (receiver : Receiver) (payload : Bytes) :
    receiver.acceptAll (transferFrames payload) = holding payload := by
  rw [transferFrames_eq, acceptAll_cons, accept_headerFrame,
    acceptAll_map_dataFrame _ fun _ => length_le_of_mem_pages, flatten_pages]
  rfl

end Receiver

/-! ## What one operation hands over -/

/-- What stands before an element that is not in the first part includes the first part. -/
theorem exists_of_append_eq {α : Type} {first second before after : List α} {x : α}
    (h : first ++ second = before ++ x :: after) (hx : x ∉ first) :
    ∃ mid, before = first ++ mid ∧ second = mid ++ x :: after := by
  rcases List.append_eq_append_iff.mp h with ⟨mid, hbefore, hsecond⟩ | ⟨mid, hfirst, hafter⟩
  · exact ⟨mid, hbefore, hsecond⟩
  · cases mid with
    | nil => exact ⟨[], by rw [hfirst, List.append_nil, List.append_nil], hafter.symm⟩
    | cons y mid =>
        obtain ⟨rfl, _⟩ := List.cons.inj hafter
        exact absurd (hfirst ▸ List.mem_append_right before List.mem_cons_self) hx

/-- Only frames that were handed over are delivered. -/
theorem delivered_sublist (sends : List (Bytes × Except Error Unit)) :
    (delivered sends).Sublist (sends.map Prod.fst) := by
  induction sends with
  | nil => exact .slnil
  | cons send rest ih =>
      obtain ⟨frame, result⟩ := send
      cases result with
      | error => exact ih.cons frame
      | ok => exact ih.cons_cons frame

section Course

variable {payload data : Bytes} {sends before after : List (Bytes × Except Error Unit)}
  {frame : Bytes} {result : Except Error Unit}

/-- A frame of the transfer is known, and does not reset the device. -/
theorem messageOf?_of_mem_transferFrames (h : frame ∈ transferFrames payload) :
    ∃ request data, messageOf? frame = some (request, data) ∧ request ≠ .reset := by
  obtain ⟨request, data, rfl, hlength, hrequest⟩ := request_of_mem_transferFrames h
  refine ⟨request, data, messageOf?_encode request (Nat.lt_of_le_of_lt hlength (by decide)), ?_⟩
  rcases hrequest with rfl | rfl
  · decide
  · decide

/-- Every frame of an upgrade is known. -/
theorem Course.messageOf?_of_mem (h : Course payload sends)
    {send : Bytes × Except Error Unit} (hsend : send ∈ sends) :
    ∃ request data, messageOf? send.1 = some (request, data) := by
  have hmem := h.frames_in_order.subset (List.mem_map_of_mem hsend)
  simp only [List.mem_append, List.mem_cons, List.not_mem_nil, or_false] at hmem
  rcases hmem with htransfer | hinfo | hreset
  · obtain ⟨request, data, hmessage, _⟩ := messageOf?_of_mem_transferFrames htransfer
    exact ⟨request, data, hmessage⟩
  · rw [hinfo]
    exact ⟨_, _, messageOf?_infoFrame⟩
  · rw [hreset]
    exact ⟨_, _, messageOf?_resetFrame⟩

/-- The announcement comes first, and nothing comes after it if it was not taken. -/
theorem Course.header_first (h : Course payload sends) :
    ∃ result rest, sends = (headerFrame payload, result) :: rest ∧
      (rest = [] ∨ result = .ok ()) := by
  cases h with
  | broken sent frame rest error hframes =>
      rw [transferFrames_eq] at hframes
      cases sent with
      | nil =>
          obtain ⟨rfl, _⟩ := List.cons.inj hframes
          exact ⟨_, _, rfl, .inl rfl⟩
      | cons first others =>
          obtain ⟨rfl, _⟩ := List.cons.inj hframes
          exact ⟨_, _, rfl, .inr rfl⟩
  | through asked reset =>
      rw [transferFrames_eq]
      exact ⟨_, _, rfl, .inr rfl⟩

/-- Before a page the announcement was taken. -/
theorem Course.header_before (h : Course payload sends)
    (hsends : sends = before ++ (frame, result) :: after)
    (hframe : messageOf? frame = some (.data, data)) :
    taken (headerFrame payload) ∈ before := by
  obtain ⟨header, rest, hfirst, hrest⟩ := h.header_first
  rw [hfirst] at hsends
  cases before with
  | nil =>
      obtain ⟨hheader, _⟩ := List.cons.inj hsends
      obtain ⟨rfl, _⟩ := Prod.mk.inj hheader
      rw [messageOf?_headerFrame] at hframe
      cases hframe
  | cons send others =>
      obtain ⟨rfl, rfl⟩ := List.cons.inj hsends
      rcases hrest with hnone | rfl
      · simp at hnone
      · exact List.mem_cons_self

/-- Before a reset the whole transfer was taken, and nothing came after it but the query. -/
theorem Course.transferred_before (h : Course payload sends)
    (hsends : sends = before ++ (frame, result) :: after)
    (hframe : messageOf? frame = some (.reset, data)) :
    ∃ asked, before = (transferFrames payload).map taken ++ [(infoFrame, asked)] := by
  have habsent : frame ∉ transferFrames payload := by
    intro hmem
    obtain ⟨request, data, hmessage, hreset⟩ := messageOf?_of_mem_transferFrames hmem
    rw [hmessage] at hframe
    cases hframe
    exact hreset rfl
  cases h with
  | broken sent last rest error hframes =>
      have hmem : frame ∈ (before ++ (frame, result) :: after).map Prod.fst := by
        rw [List.map_append]
        exact List.mem_append_cons_self
      rw [← hsends, List.map_append, map_fst_map_taken, List.mem_append, List.map_singleton,
        List.mem_singleton] at hmem
      refine absurd ?_ habsent
      rw [hframes, List.mem_append, List.mem_cons]
      exact hmem.imp_right Or.inl
  | through asked reset =>
      have habsent' : (frame, result) ∉ (transferFrames payload).map taken := by
        intro hmem
        obtain ⟨other, hother, heq⟩ := List.mem_map.mp hmem
        obtain ⟨rfl, _⟩ := Prod.mk.inj heq
        exact habsent hother
      obtain ⟨mid, rfl, hmid⟩ := exists_of_append_eq hsends habsent'
      -- of the two frames after the transfer, the first only asks
      cases mid with
      | nil =>
          obtain ⟨hinfo, _⟩ := List.cons.inj hmid
          obtain ⟨rfl, _⟩ := Prod.mk.inj hinfo
          rw [messageOf?_infoFrame] at hframe
          cases hframe
      | cons send others =>
          obtain ⟨rfl, hothers⟩ := List.cons.inj hmid
          cases others with
          | nil => exact ⟨asked, rfl⟩
          | cons _ more => simp at hothers

/-- The pages that are handed over are the first pages of the payload. -/
theorem Course.pages_in_order (h : Course payload sends) :
    pagesIn (sends.map Prod.fst) <+: pages payload := by
  have hpages := h.frames_in_order.filterMap pageOf?
  change pagesIn _ <+: pagesIn _ at hpages
  rwa [pagesIn_append, pagesIn_transferFrames, pagesIn_infoFrame_resetFrame,
    List.append_nil] at hpages

/-- The pages that are taken are the first of those handed over. -/
theorem Course.pages_delivered (h : Course payload sends) :
    pagesIn (delivered sends) <+: pagesIn (sends.map Prod.fst) := by
  cases h with
  | broken sent frame rest error hframes =>
      rw [delivered_append, delivered_map_taken, List.map_append, map_fst_map_taken,
        pagesIn_append, pagesIn_append]
      exact (List.prefix_append_right_inj _).mpr List.nil_prefix
  | through asked reset =>
      have hclosing : pagesIn (delivered [(infoFrame, asked), (resetFrame, reset)]) = [] := by
        have hsublist := (delivered_sublist [(infoFrame, asked), (resetFrame, reset)]).filterMap
          pageOf?
        change (pagesIn _).Sublist (pagesIn [infoFrame, resetFrame]) at hsublist
        rw [pagesIn_infoFrame_resetFrame] at hsublist
        exact List.sublist_nil.mp hsublist
      rw [delivered_append, delivered_map_taken, List.map_append, map_fst_map_taken,
        pagesIn_append, pagesIn_append, hclosing]
      exact (List.prefix_append_right_inj _).mpr List.nil_prefix

end Course

/-! ## Whole runs -/

section Runs

variable {τ : Type} {operation : Operation τ} {image data : Bytes} {frame : Bytes}
  {sends before after : List (Bytes × Except Error Unit)} {result : Except Error Unit}

/-- Every frame of every operation is known. -/
theorem Sends.messageOf?_of_mem (h : Sends operation sends)
    {send : Bytes × Except Error Unit} (hsend : send ∈ sends) :
    ∃ request data, messageOf? send.1 = some (request, data) := by
  cases h with
  | query result =>
      rw [List.mem_singleton.mp hsend]
      exact ⟨_, _, messageOf?_infoFrame⟩
  | upgrade _ hcourse => exact hcourse.messageOf?_of_mem hsend
  | reset result =>
      rw [List.mem_singleton.mp hsend]
      exact ⟨_, _, messageOf?_resetFrame⟩
  | refused | configure | bypass => cases hsend

/-- What an upgrade hands over, if it hands over anything, runs the course of the payload. -/
theorem Sends.course_of_mem (h : Sends (.upgrade image : Operation τ) sends)
    {send : Bytes × Except Error Unit} (hsend : send ∈ sends) :
    Course (image.drop Image.regionSize) sends := by
  cases h with
  | refused => cases hsend
  | upgrade _ hcourse => exact hcourse

/-- Only upgrades hand over pages, and only after their announcement was taken. -/
theorem Sends.header_before (h : Sends operation sends)
    (hsends : sends = before ++ (frame, result) :: after)
    (hframe : messageOf? frame = some (.data, data)) :
    ∃ image, operation = .upgrade image ∧
      taken (headerFrame (image.drop Image.regionSize)) ∈ before := by
  have hmem : (frame, result) ∈ sends := by
    rw [hsends]
    exact List.mem_append_cons_self
  cases h with
  | query asked =>
      obtain ⟨rfl, _⟩ := Prod.mk.inj (List.mem_singleton.mp hmem)
      rw [messageOf?_infoFrame] at hframe
      cases hframe
  | upgrade _ hcourse => exact ⟨_, rfl, hcourse.header_before hsends hframe⟩
  | reset asked =>
      obtain ⟨rfl, _⟩ := Prod.mk.inj (List.mem_singleton.mp hmem)
      rw [messageOf?_resetFrame] at hframe
      cases hframe
  | refused | configure | bypass => cases hmem

/-- Up to the reset of an upgrade, a device gets the image of this upgrade, whatever it got
before. -/
theorem Sends.holding_before (h : Sends (.upgrade image : Operation τ) sends)
    (hsends : sends = before ++ (frame, result) :: after)
    (hframe : messageOf? frame = some (.reset, data)) (receiver : Receiver) :
    receiver.acceptAll (delivered before) = .holding (image.drop Image.regionSize) := by
  have hmem : (frame, result) ∈ sends := by
    rw [hsends]
    exact List.mem_append_cons_self
  obtain ⟨asked, rfl⟩ := (h.course_of_mem hmem).transferred_before hsends hframe
  rw [delivered_append, delivered_map_taken, Receiver.acceptAll_append,
    Receiver.acceptAll_transferFrames]
  -- the query after the transfer changes nothing, whether it was taken or not
  cases asked with
  | error => rfl
  | ok =>
      show Receiver.acceptAll _ [infoFrame] = _
      rw [Receiver.acceptAll_cons, Receiver.accept_infoFrame, Receiver.acceptAll_nil]

/-- An upgrade delivers a first part of the pages that it hands over, which are a first part of
those of the payload. -/
theorem Sends.pages_in_order (h : Sends (.upgrade image : Operation τ) sends) :
    pagesIn (delivered sends) <+: pagesIn (sends.map Prod.fst) ∧
      pagesIn (sends.map Prod.fst) <+: pages (image.drop Image.regionSize) := by
  cases h with
  | refused => exact ⟨List.prefix_rfl, List.nil_prefix⟩
  | upgrade _ hcourse => exact ⟨hcourse.pages_delivered, hcourse.pages_in_order⟩

/-- In a run of any operations over any transport, all frames are known; a page is handed over
only after the announcement of its upgrade was taken; whenever an upgrade resets the device, a
device that got the frames taken so far holds the image of this upgrade, with the length and the
checksum that were announced; and the pages are those of the image, in order, all of them full
but the last, which is neither empty nor filled up. The sends are those on the transport. -/
theorem run_delivers_images (transport : Transport τ) (session : Session τ)
    (operations : List (Operation τ)) (receiver : Receiver)
    (hsize : ∀ image, .upgrade image ∈ operations →
      image.length - Image.regionSize < 2 ^ 32) :
    (transport.Returns → (run transport operations session).isSome) ∧
    ∀ turns, run transport operations session = some turns →
      (∀ turn ∈ turns, turn.IsDialogue transport) ∧
      (∀ send ∈ sendsOf turns, ∃ message request,
        Frame.decode send.1 = .ok message ∧ message.request? = some request) ∧
      (∀ earlier turn later before frame result after,
        turns = earlier ++ turn :: later → turn.sends = before ++ (frame, result) :: after →
        (∀ data, messageOf? frame = some (.data, data) →
          ∃ image header announcement, turn.operation = .upgrade image ∧
            taken header ∈ before ∧ messageOf? header = some (.header, announcement)) ∧
        (∀ data image, messageOf? frame = some (.reset, data) →
          turn.operation = .upgrade image →
          let view := receiver.acceptAll (delivered (sendsOf earlier ++ before))
          view.buffer = image.drop Image.regionSize ∧
          ∃ announcement, view.announced = some announcement ∧
            announcement.totalLength.toNat = view.buffer.length ∧
            announcement.totalCrc = Checksum.ofBytes view.buffer)) ∧
      (∀ turn ∈ turns, ∀ image, turn.operation = .upgrade image →
        let payload := image.drop Image.regionSize
        let count := pageCount payload.length
        let handed := pagesIn (turn.sends.map Prod.fst)
        pagesIn (delivered turn.sends) <+: handed ∧
        handed <+: (List.range count).map (page payload) ∧
        (∀ number < count,
          0 < (page payload number).length ∧ (page payload number).length ≤ pageSize ∧
          (number + 1 < count → (page payload number).length = pageSize)) ∧
        (payload = [] → handed = [])) := by
  refine ⟨fun h => isSome_run h operations session, ?_⟩
  intro turns hrun
  refine ⟨fun turn => dialogue_of_mem_run hrun, ?_, ?_, ?_⟩
  · intro send hsend
    obtain ⟨turn, hturn, hsend⟩ := List.mem_flatMap.mp hsend
    obtain ⟨request, data, hmessage⟩ := (sends_of_mem_run hrun hturn).messageOf?_of_mem hsend
    exact known_of_messageOf? hmessage
  · rintro earlier turn later before frame result after rfl hsends
    have hturn : turn ∈ earlier ++ turn :: later := List.mem_append_cons_self
    have hpossible := sends_of_mem_run hrun hturn
    constructor
    · intro data hframe
      obtain ⟨image, hoperation, hbefore⟩ := hpossible.header_before hsends hframe
      exact ⟨image, _, _, hoperation, hbefore, messageOf?_headerFrame _⟩
    · intro data image hframe hoperation
      have hlength : (image.drop Image.regionSize).length < 2 ^ 32 := by
        rw [List.length_drop]
        apply hsize image
        rw [← operations_of_run hrun, ← hoperation]
        exact List.mem_map_of_mem hturn
      rw [hoperation] at hpossible
      dsimp only
      -- the announcement empties the buffer, so it does not count what came in earlier turns
      rw [delivered_append, Receiver.acceptAll_append,
        hpossible.holding_before hsends hframe]
      exact ⟨rfl, _, rfl, UInt32.toNat_ofNat_of_lt' hlength, rfl⟩
  · intro turn hturn image hoperation
    have hpossible := sends_of_mem_run hrun hturn
    rw [hoperation] at hpossible
    obtain ⟨hdelivered, hhanded⟩ := hpossible.pages_in_order
    refine ⟨hdelivered, ?_, ?_, ?_⟩
    · rw [← pages_eq_map_range]
      exact hhanded
    · intro number hnumber
      exact ⟨length_page_pos hnumber, length_page_le _ number, length_page_of_succ_lt⟩
    · intro hempty
      rw [hempty, pages_nil] at hhanded
      exact List.prefix_nil.mp hhanded

/-- An upgrade of which the page is refused, a query, and the same upgrade again: when the device
is reset, it holds the page once. -/
theorem run_delivers_images_retried :
    let image : Bytes := [0, 0, 0, 0, 0, 0, 0, 0, 0, 0, 0, 0, 5, 6]
    let operations := [.upgrade image, .query, .upgrade image]
    let receiver : Receiver := { announced := none, buffer := [9] }
    (∀ image, .upgrade image ∈ operations → image.length - Image.regionSize < 2 ^ 32) ∧
    ∃ first second third before result,
      run Simulation.Script.transport operations
        (new ⟨[none, some (.transportFault "bus off")], []⟩) = some [first, second, third] ∧
      third.sends = before ++ [(resetFrame, result)] ∧
      (receiver.acceptAll (delivered (sendsOf [first, second] ++ before))).buffer = [5, 6] := by
  intro image operations receiver
  have hsize : ∀ image, .upgrade image ∈ operations →
      image.length - Image.regionSize < 2 ^ 32 := by
    intro other hother
    simp only [operations, List.mem_cons, List.not_mem_nil, Operation.upgrade.injEq,
      reduceCtorEq, or_false, false_or, or_self] at hother
    subst hother
    decide
  have hframes : (run Simulation.Script.transport operations
      (new ⟨[none, some (.transportFault "bus off")], []⟩)).map
        (List.map fun turn => turn.sends.map Prod.fst) =
      some [[headerFrame [5, 6], dataFrame [5, 6]], [infoFrame],
        [headerFrame [5, 6], dataFrame [5, 6], infoFrame] ++ [resetFrame]] := by
    decide +kernel
  obtain ⟨turns, hrun, hturns⟩ := Option.map_eq_some_iff.mp hframes
  obtain ⟨first, _, rfl, _, hturns⟩ := List.map_eq_cons_iff.mp hturns
  obtain ⟨second, _, rfl, _, hturns⟩ := List.map_eq_cons_iff.mp hturns
  obtain ⟨third, _, rfl, hthird, hturns⟩ := List.map_eq_cons_iff.mp hturns
  obtain rfl := List.map_eq_nil_iff.mp hturns
  obtain ⟨before, _, hsends, _, hlast⟩ := List.map_eq_append_iff.mp hthird
  obtain ⟨⟨frame, result⟩, _, rfl, rfl, hnone⟩ := List.map_eq_cons_iff.mp hlast
  obtain rfl := List.map_eq_nil_iff.mp hnone
  have hoperations := operations_of_run hrun
  simp only [List.map_cons, operations, List.cons.injEq] at hoperations
  have hview := ((run_delivers_images Simulation.Script.transport _ operations receiver
    hsize).2 _ hrun).2.2.1 [first, second] third [] before resetFrame result [] rfl hsends
  have hbuffer := (hview.2 [] image messageOf?_resetFrame hoperations.2.2.1).1
  exact ⟨hsize, first, second, third, before, result, hrun, hsends, hbuffer⟩

end Runs

end Reflash.Session
