import Mathlib.Data.List.Forall2
import Reflash.Proofs.Image.Stamping
import Reflash.Proofs.Session.Device

/-!
# Only the payload counts

The header region of an image stays behind. An upgrade makes a record of the image and from then on
knows its payload only (`upgrade_eq`), so over the same transport two images with the same payload
lead to episodes that are `Alike`: they differ in nothing but the records in front, also in the middle
of runs of other operations (`runs_alike`).

What the device is told about the payload is what stamping writes into the header region, although
the two words stand the other way round there; and it is told once, at the start
(`Course.announced_once`). `upgrade_ignores_region` puts both together.
-/

namespace Reflash.Session

open Activity

variable {τ α β : Type} {transport : Transport τ}

/-! ## Episodes that are alike -/

/-- Episodes that differ in nothing but records made at the start. -/
structure Episode.Alike (e other : Episode τ α) : Prop where
  value_eq : e.value = other.value
  session_eq : e.session = other.session
  events_eq : ∃ (records others : List Log.Record) (later : List Event),
    e.events = records.map .record ++ later ∧ other.events = others.map .record ++ later

namespace Episode.Alike

variable {e other : Episode τ α}

/-- An episode is like itself. -/
theorem refl (e : Episode τ α) : e.Alike e :=
  ⟨rfl, rfl, [], [], e.events, rfl, rfl⟩

/-- Episodes that are alike have the same calls, results and reports. -/
theorem traffic_eq (h : e.Alike other) : traffic e.events = traffic other.events := by
  obtain ⟨records, others, later, hevents, hothers⟩ := h.events_eq
  rw [hevents, hothers, traffic_append, traffic_append, traffic_records, traffic_records]

/-- What follows on episodes that are alike is alike. -/
theorem exists_bind {first second : Activity τ α} {next : α → Activity τ β} {session : Session τ}
    (h : ∀ e, first session = some e → ∃ other, second session = some other ∧ e.Alike other)
    {e : Episode τ β} (he : (first >>= next) session = some e) :
    ∃ other, (second >>= next) session = some other ∧ e.Alike other := by
  rw [bind_apply, Option.bind_eq_some_iff] at he
  obtain ⟨one, hone, he⟩ := he
  obtain ⟨two, htwo, rfl⟩ := Option.map_eq_some_iff.mp he
  obtain ⟨other, hother, halike⟩ := h one hone
  obtain ⟨records, others, later, hevents, hothers⟩ := halike.events_eq
  refine ⟨two.after other.events, ?_, rfl, rfl, records, others, later ++ two.events, ?_, ?_⟩
  · rw [bind_apply, hother, Option.bind_some, ← halike.value_eq, ← halike.session_eq, htwo]
    rfl
  · show one.events ++ two.events = _
    rw [hevents, List.append_assoc]
  · show other.events ++ two.events = _
    rw [hothers, List.append_assoc]

end Episode.Alike

/-! ## Upgrades of the same payload -/

/-- What an upgrade does once the image is introduced. -/
def stream (transport : Transport τ) (payload : Bytes) : Activity τ (Except Error Unit) := do
  change fun session => { session with progress := .start (pageCount payload.length) }
  match ← announce transport payload with
  | .error e => abort e
  | .ok () =>
    match ← sendPages transport 0 (pages payload) with
    | .error e => abort e
    | .ok () => conclude transport

/-- An upgrade introduces the image and streams what is behind its header region. -/
theorem upgrade_eq {image : Bytes} (h : Image.regionSize ≤ image.length) :
    upgrade transport image =
      (introduce image >>= fun _ => stream transport (image.drop Image.regionSize)) := by
  unfold upgrade
  rw [imagePayload_of_le h]
  rfl

/-- To introduce an image is to make records of it, the same ones in every session. -/
theorem exists_introduce_eq (image : Bytes) :
    ∃ records : List Log.Record, ∀ session : Session τ,
      introduce image session = some { value := (), session, events := records.map .record } := by
  unfold introduce
  cases Image.Header.parse? image with
  | none => exact ⟨[], fun _ => rfl⟩
  | some header => exact ⟨[_], fun _ => rfl⟩

/-- Introductions are alike, whatever the images are. -/
theorem introduce_alike (image other : Bytes) (session : Session τ) :
    ∀ e, introduce image session = some e →
      ∃ otherEnd, introduce other session = some otherEnd ∧ e.Alike otherEnd := by
  obtain ⟨records, hrecords⟩ := exists_introduce_eq (τ := τ) image
  obtain ⟨others, hothers⟩ := exists_introduce_eq (τ := τ) other
  intro e he
  rw [hrecords] at he
  cases he
  exact ⟨_, hothers session, rfl, rfl, records, others, [], by simp⟩

/-- Upgrades of the same payload are alike. -/
theorem upgrade_alike {image other : Bytes} (himage : Image.regionSize ≤ image.length)
    (hother : Image.regionSize ≤ other.length)
    (hpayload : image.drop Image.regionSize = other.drop Image.regionSize) {session : Session τ}
    {e : Episode τ (Except Error Unit)} (h : upgrade transport image session = some e) :
    ∃ otherEnd, upgrade transport other session = some otherEnd ∧ e.Alike otherEnd := by
  rw [upgrade_eq himage, hpayload] at h
  rw [upgrade_eq hother]
  exact Episode.Alike.exists_bind (introduce_alike image other session) h

/-! ## Runs with the same payloads -/

/-- Operations that differ at most in the header region of an image. -/
inductive Operation.Alike : Operation τ → Operation τ → Prop where
  | refl (operation) : Alike operation operation
  | upgrade {image other} : Image.regionSize ≤ image.length → Image.regionSize ≤ other.length →
      image.drop Image.regionSize = other.drop Image.regionSize →
      Alike (.upgrade image) (.upgrade other)

/-- Operations that are the same but for one upgrade, of images with the same payload, are alike. -/
theorem alike_replaced {image other : Bytes} (himage : Image.regionSize ≤ image.length)
    (hother : Image.regionSize ≤ other.length)
    (hpayload : image.drop Image.regionSize = other.drop Image.regionSize)
    (earlier later : List (Operation τ)) :
    List.Forall₂ Operation.Alike (earlier ++ .upgrade image :: later)
      (earlier ++ .upgrade other :: later) := by
  have hsame : ∀ operations : List (Operation τ), List.Forall₂ Operation.Alike operations operations :=
    fun operations => List.forall₂_same.mpr fun operation _ => .refl operation
  exact List.rel_append (hsame earlier) (.cons (.upgrade himage hother hpayload) (hsame later))

/-- Operations that are alike end alike. -/
theorem perform_alike {operation other : Operation τ} (hoperation : operation.Alike other)
    {session : Session τ} {e : Episode τ Answer} (h : perform transport operation session = some e) :
    ∃ otherEnd, perform transport other session = some otherEnd ∧ e.Alike otherEnd := by
  cases hoperation with
  | refl => exact ⟨e, h, .refl e⟩
  | upgrade himage hother hpayload =>
      exact Episode.Alike.exists_bind (fun _ => upgrade_alike himage hother hpayload) h

/-- Runs of operations that are alike go alike, turn by turn and from the same sessions on: what the
header regions of the images hold shows in records only, and never later on. -/
theorem runs_alike {operations others : List (Operation τ)}
    (hoperations : List.Forall₂ Operation.Alike operations others) {session : Session τ}
    {turns : List (Turn τ)} (h : run transport operations session = some turns) :
    ∃ otherTurns, run transport others session = some otherTurns ∧
      List.Forall₂ (fun turn other => turn.start = other.start ∧ turn.episode.Alike other.episode)
        turns otherTurns := by
  induction hoperations generalizing session turns with
  | nil =>
      cases h
      exact ⟨[], rfl, .nil⟩
  | @cons operation other rest otherRest hfirst _ ih =>
      obtain ⟨episode, later, hepisode, hlater, rfl⟩ := run_cons_eq_some h
      obtain ⟨otherEnd, hother, halike⟩ := perform_alike hfirst hepisode
      obtain ⟨otherLater, hotherLater, hturns⟩ := ih hlater
      -- the rest starts from the same session
      refine ⟨{ operation := other, start := session, episode := otherEnd } :: otherLater, ?_,
        .cons ⟨rfl, halike⟩ hturns⟩
      unfold run
      rw [hother]
      dsimp only
      rw [← halike.session_eq, hotherLater]
      rfl

/-! ## What is announced -/

section Course

variable {payload : Bytes} {sends : List (Bytes × Except Error Unit)}

/-- Behind the announcement no frame of an upgrade announces anything. -/
theorem messageOf?_of_mem_behind {frame : Bytes}
    (h : frame ∈ (pages payload).map dataFrame ++ [infoFrame, resetFrame]) :
    ∃ request data, messageOf? frame = some (request, data) ∧ request ≠ .header := by
  simp only [List.mem_append, List.mem_map, List.mem_cons, List.not_mem_nil, or_false] at h
  rcases h with ⟨data, hdata, rfl⟩ | rfl | rfl
  · exact ⟨_, _, messageOf?_dataFrame (length_le_of_mem_pages hdata), by decide⟩
  · exact ⟨_, _, messageOf?_infoFrame, by decide⟩
  · exact ⟨_, _, messageOf?_resetFrame, by decide⟩

/-- The payload is announced first, and nothing is announced after that. -/
theorem Course.announced_once (h : Course payload sends) :
    ∃ result later, sends = (headerFrame payload, result) :: later ∧
      ∀ send ∈ later, ∀ data, messageOf? send.1 ≠ some (.header, data) := by
  obtain ⟨result, later, rfl, _⟩ := h.header_first
  refine ⟨result, later, rfl, ?_⟩
  intro send hsend data hheader
  have hframes := h.frames_in_order
  rw [transferFrames_eq, List.map_cons, List.cons_append, List.cons_prefix_cons] at hframes
  obtain ⟨request, _, hmessage, hrequest⟩ :=
    messageOf?_of_mem_behind (hframes.2.subset (List.mem_map_of_mem hsend))
  rw [hmessage] at hheader
  cases hheader
  exact hrequest rfl

end Course

/-- The frame is an announcement, and what it announces is in the stamp. -/
def Announces (frame : Bytes) (stamp : Stamp) : Prop :=
  ∃ message announcement, Frame.decode frame = .ok message ∧ message.request? = some .header ∧
    Announcement.decode message.payload = .ok announcement ∧
    announcement.totalLength = stamp.size ∧ announcement.totalCrc = stamp.crc

/-- The payload of an image is announced with the stamp that the image asks for. -/
theorem announces_headerFrame (image : Image) :
    Announces (headerFrame (image.bytes.drop Image.regionSize)) image.expectedStamp := by
  rw [← Image.payload_eq_drop]
  obtain ⟨message, hdecode, hrequest, hpayload⟩ :=
    messageOf?_eq_some_iff.mp (messageOf?_headerFrame image.payload)
  refine ⟨message, .ofPayload image.payload, hdecode, hrequest, ?_, rfl, rfl⟩
  rw [hpayload, Announcement.decode_encode]

/-- The size in a stamp is that of the payload, if it has room for it. -/
theorem toNat_size_expectedStamp (image : Image)
    (h : image.bytes.length - Image.regionSize < 2 ^ 32) :
    image.expectedStamp.size.toNat = image.bytes.length - Image.regionSize := by
  have hlength : image.payload.length = image.bytes.length - Image.regionSize := by
    rw [Image.payload_eq_drop, List.length_drop]
  show (UInt32.ofNat image.payload.length).toNat = _
  rw [hlength, UInt32.toNat_ofNat_of_lt' h]

/-- An upgrade announces once, at its start, and what it announces is what the image is stamped with:
size and checksum of what is behind the header region, and so also the stored ones if the image
passes the check. What the header region holds has no part in an upgrade. Over the same transport and
from the same session on, any image with the same payload makes for the same calls, results and
reports and leaves the same session behind; nothing differs but records made at the start. Nor has it
a part in what comes later: any run goes alike, turn by turn, if the image in it is replaced by the
other. -/
theorem upgrade_ignores_region (transport : Transport τ) (session : Session τ) (image : Bytes)
    (himage : Image.regionSize ≤ image.length) :
    (transport.Returns → (upgrade transport image session).isSome) ∧
    (∀ e, upgrade transport image session = some e → e.IsDialogue transport session ∧
      (∃ stamp region frame result later,
        image.imageStamp = .ok stamp ∧ Image.ofBytes image = .ok region ∧
        attempts e.events = (frame, result) :: later ∧ Announces frame stamp ∧
        (∀ send ∈ later, ∀ message, Frame.decode send.1 = .ok message →
          message.request? ≠ some .header) ∧
        (image.length - Image.regionSize < 2 ^ 32 →
          stamp.size.toNat = image.length - Image.regionSize) ∧
        (image.verifyImage = .ok () →
          region.storedSize = stamp.size ∧ region.storedCrc = stamp.crc)) ∧
      ∀ other : Bytes, Image.regionSize ≤ other.length →
        image.drop Image.regionSize = other.drop Image.regionSize →
        ∃ otherEnd, upgrade transport other session = some otherEnd ∧ e.Alike otherEnd ∧
          traffic e.events = traffic otherEnd.events) ∧
    ∀ other : Bytes, Image.regionSize ≤ other.length →
      image.drop Image.regionSize = other.drop Image.regionSize →
      ∀ earlier later turns,
        run transport (earlier ++ .upgrade image :: later) session = some turns →
          ∃ otherTurns,
            run transport (earlier ++ .upgrade other :: later) session = some otherTurns ∧
            List.Forall₂ (fun turn other =>
              turn.start = other.start ∧ turn.episode.Alike other.episode) turns otherTurns := by
  refine ⟨fun h => total_upgrade h image session, ?_, fun other hother hpayload earlier later turns =>
    runs_alike (alike_replaced himage hother hpayload earlier later)⟩
  intro e he
  refine ⟨dialogue_of_upgrade himage he, ?_, ?_⟩
  · obtain ⟨result, later, hattempts, hlater⟩ := (course_of_upgrade himage he).announced_once
    let region : Image := ⟨image, himage⟩
    have hagrees : Image.Agrees image region := region.agrees_bytes
    refine ⟨region.expectedStamp, region, _, result, later, hagrees.imageStamp_eq,
      hagrees.ofBytes_eq, hattempts, announces_headerFrame region, ?_,
      toNat_size_expectedStamp region, ?_⟩
    · intro send hsend message hmessage hheader
      exact hlater send hsend _ (messageOf?_eq_some_iff.mpr ⟨message, hmessage, hheader, rfl⟩)
    · intro hverify
      rw [hagrees.verifyImage_eq, Image.verify_eq_ok_iff_storedStamp] at hverify
      exact ⟨congrArg Stamp.size hverify, congrArg Stamp.crc hverify⟩
  · intro other hother hpayload
    obtain ⟨otherEnd, hend, halike⟩ := upgrade_alike himage hother hpayload he
    exact ⟨otherEnd, hend, halike, halike.traffic_eq⟩

/-- An image of one page and its stamped copy, over a transport that refuses the page. The upgrade of
the image that is not stamped announces what is stored in the copy. -/
theorem upgrade_ignores_region_stamped :
    let bytes : Bytes := List.replicate 12 0 ++ [5, 6]
    let session := new (⟨[none, some (.transportFault "bus off")], []⟩ : Simulation.Script)
    bytes.verifyImage ≠ .ok () ∧ ∃ stamped image, bytes.stamped = .ok stamped ∧
      Image.ofBytes stamped = .ok image ∧ ∃ e other,
        upgrade Simulation.Script.transport stamped session = some e ∧
        upgrade Simulation.Script.transport bytes session = some other ∧
        e.value = .error (.abortedTransfer 0 1 (.transportFault "bus off")) ∧
        traffic e.events = traffic other.events ∧
        ∃ frame result later, attempts other.events = (frame, result) :: later ∧
          Announces frame image.storedStamp := by
  intro bytes session
  have hregion : Image.regionSize ≤ bytes.length := by decide
  have hunstamped : bytes.verifyImage ≠ .ok () := by decide +kernel
  have hvalue : (upgrade Simulation.Script.transport bytes session).map (·.value) =
      some (.error (.abortedTransfer 0 1 (.transportFault "bus off"))) := by
    decide +kernel
  have hreturns : Simulation.Script.transport.Returns := ⟨fun _ _ => rfl, fun _ _ => rfl⟩
  have hstamps := Image.stamps_bytes ⟨bytes, hregion⟩
  let image : Image := Image.stamp ⟨bytes, hregion⟩
  have hagrees : Image.Agrees image.bytes image := image.agrees_bytes
  have hverify : image.bytes.verifyImage = .ok () := by
    rw [hagrees.verifyImage_eq]
    exact Image.verify_stamp _
  obtain ⟨htotal, hupgrade, _⟩ :=
    upgrade_ignores_region Simulation.Script.transport session image.bytes image.region_le
  obtain ⟨e, he⟩ := Option.isSome_iff_exists.mp (htotal hreturns)
  obtain ⟨_, ⟨stamp, region, frame, result, later, _, hofBytes, hattempts, hannounces, _, _, hstored⟩,
    hothers⟩ := hupgrade e he
  obtain ⟨other, hother, halike, htraffic⟩ := hothers bytes hregion hstamps.drop_eq
  refine ⟨hunstamped, image.bytes, region, hstamps.stamped_eq, hofBytes, e, other, he, hother, ?_,
    htraffic, frame, result, later, ?_, ?_⟩
  · rw [halike.value_eq]
    rw [hother] at hvalue
    exact Option.some.inj hvalue
  · rw [← attempts_traffic, ← htraffic, attempts_traffic, hattempts]
  · have hsame : region.storedStamp = stamp :=
      congrArg₂ Stamp.mk (hstored hverify).2 (hstored hverify).1
    rw [hsame]
    exact hannounces

end Reflash.Session
