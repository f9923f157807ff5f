import Reflash.Proofs.Bytes.Indexing
import Reflash.Proofs.Session.Counting
import Reflash.Proofs.Session.Limits
import Reflash.Proofs.Session.Payload

/-!
# Page arithmetic and the page loop

The number of pages is calculated from the length before the first page is cut off, and the loop that
cuts the pages off never looks at it. `pageCount_agrees_with_loop` says that the two agree at every
length: there are as many pages as were announced, page number `i` is the part of the payload at
offsets `1024 * i` up to `1024 * (i + 1)` or the end, and whenever some pages are out, the counters show
just these.

`stream_split` says what it means that some pages are out: at any page the upgrade can be taken apart
into what leads up to this page and what goes on from it.
-/

namespace Reflash

open Indexing

section Pages

variable (payload : Bytes) {i : Nat} (h : i < (pages payload).length)

/-- The pages stand in the order of their numbers. -/
theorem getElem_pages : (pages payload)[i] = page payload i := by
  rw [List.getElem_of_eq (pages_eq_map_range payload), List.getElem_map, List.getElem_range]

/-- None of the pages is empty. -/
theorem length_getElem_pages_pos : 0 < (pages payload)[i].length := by
  rw [getElem_pages]
  exact length_page_pos (length_pages payload ▸ h)

/-- A page lies inside the payload, and ends where the next one begins or with the payload. -/
theorem cut_eq_getElem_pages :
    cut payload (pageSize * i) (min (pageSize * (i + 1)) payload.length) =
      pure (pages payload)[i] := by
  have hpos := length_getElem_pages_pos payload h
  rw [getElem_pages, length_page] at hpos
  have hstart : pageSize * i ≤ min (pageSize * (i + 1)) payload.length := by
    rw [Nat.mul_succ]
    omega
  rw [cut_eq hstart (Nat.min_le_right _ _), getElem_pages]
  congr 1
  unfold Bytes.slice page
  refine List.take_eq_take_iff.mpr ?_
  rw [List.length_drop, Nat.mul_succ]
  omega

end Pages

namespace Session

open Activity

variable {τ : Type} {transport : Transport τ}

/-! ## The upgrade in two parts -/

/-- Sending pages is sending the first of them and then, if these are all taken, the others. -/
theorem sendPages_append (number : Nat) (front rest : List Bytes) :
    sendPages transport number (front ++ rest) = (do
      match ← sendPages transport number front with
      | .error e => return .error e
      | .ok () => sendPages transport (number + front.length) rest) := by
  induction front generalizing number with
  | nil =>
      rw [sendPages]
      exact (pure_bind _ _).symm
  | cons page front ih =>
      have hnumber : number + (page :: front).length = number + 1 + front.length := by
        rw [List.length_cons]
        omega
      rw [List.cons_append, sendPages, sendPages, hnumber]
      simp only [bind_assoc, ih]
      refine bind_congr fun _ => bind_congr fun _ => bind_congr fun result => ?_
      -- the reply to the first page decides whether there is a loop to go on with
      cases result with
      | error error => simp only [pure_bind]
      | ok => simp only [bind_assoc]

/-- The first part of an upgrade, until `count` pages are out. It ends early at the first frame that is
not taken. -/
def streamUpTo (transport : Transport τ) (payload : Bytes) (count : Nat) :
    Activity τ (Except Error Unit) := do
  change fun session => { session with progress := .start (pageCount payload.length) }
  match ← announce transport payload with
  | .error e => return .error e
  | .ok () => sendPages transport 0 ((pages payload).take count)

/-- The second part of an upgrade, when `count` pages are out. -/
def streamFrom (transport : Transport τ) (payload : Bytes) (count : Nat) :
    Activity τ (Except Error Unit) := do
  match ← sendPages transport count ((pages payload).drop count) with
  | .error e => abort e
  | .ok () => conclude transport

/-- An upgrade can be taken apart at any of its pages. -/
theorem stream_split {payload : Bytes} {count : Nat} (h : count ≤ pageCount payload.length) :
    stream transport payload = (do
      match ← streamUpTo transport payload count with
      | .error e => abort e
      | .ok () => streamFrom transport payload count) := by
  have hnumber : 0 + ((pages payload).take count).length = count := by
    rw [length_take_pages h, Nat.zero_add]
  unfold stream streamUpTo streamFrom
  conv => lhs; rw [← List.take_append_drop count (pages payload)]
  rw [bind_assoc]
  refine bind_congr fun _ => ?_
  rw [bind_assoc]
  refine bind_congr fun announced => ?_
  cases announced with
  | error error => simp only [pure_bind]
  | ok =>
      rw [sendPages_append, hnumber, bind_assoc]
      refine bind_congr fun streamed => ?_
      cases streamed with
      | error error => simp only [pure_bind]
      | ok => rfl

/-- Streaming up to a page comes to an end. -/
theorem total_streamUpTo (h : transport.Returns) (payload : Bytes) (count : Nat) :
    (streamUpTo transport payload count).Total := by
  refine total_bind (total_change _) fun _ => total_bind (total_announce h _) fun announced => ?_
  cases announced with
  | error error => exact total_pure _
  | ok => exact total_sendPages h _ _

/-- When `count` pages are out, just these are counted. -/
theorem progress_of_streamUpTo {payload : Bytes} {count : Nat}
    (hcount : count ≤ pageCount payload.length) {session : Session τ}
    {e : Episode τ (Except Error Unit)} (h : streamUpTo transport payload count session = some e)
    (hvalue : e.value = .ok ()) : e.session.progress = .upTo payload count := by
  have houtline := outline_eq_some h
  change e.outline.value = .ok () at hvalue
  show e.outline.session.progress = _
  generalize e.outline = e at houtline hvalue ⊢
  unfold streamUpTo at houtline
  rw [outline_change_bind, outline_bind, outline_announce, Option.bind_map,
    Option.bind_eq_some_iff] at houtline
  obtain ⟨first, _, houtline⟩ := houtline
  cases hfirst : first.result with
  | error error =>
      simp only [Function.comp_apply, hfirst, outline_pure, Option.map_some,
        Option.some.injEq] at houtline
      subst houtline
      cases hvalue
  | ok =>
      simp only [Function.comp_apply, hfirst, Option.map_eq_some_iff] at houtline
      obtain ⟨later, hlater, rfl⟩ := houtline
      cases streamed_of_sendPages hlater with
      | through => exact Progress.advanceAll_take hcount
      | broken => cases hvalue

/-! ## Agreement -/

/-- The number of pages is right, and the page loop agrees with it. Counted in machine words, it is
there for every length, and is the least number of pages that are enough. There are so many pages; each
is the part of the payload at its offsets, and none is empty. Whatever a session does, its frames,
which are those on the transport, have at most 1040 bytes, so that each of them can be made, and it
never finds out what its transport would do with a longer one. An upgrade can be taken apart at any
page: when so many pages are out, no counter has overflowed, the counters show these pages and the
bytes in them, and the upgrade goes on from there. -/
theorem pageCount_agrees_with_loop (transport : Transport τ) :
    (∀ length : UInt64, ∃ count, pageCountByWord length = some count ∧
      count.toNat = pageCount length.toNat ∧
      IsLeast {n | length.toNat ≤ 1024 * n} count.toNat) ∧
    (∀ payload : Bytes, (pages payload).length = pageCount payload.length ∧
      ∀ (i : Nat) (hi : i < (pages payload).length),
        cut payload (1024 * i) (min (1024 * (i + 1)) payload.length) = pure (pages payload)[i] ∧
        0 < (pages payload)[i].length) ∧
    (∀ (operations : List (Operation τ)) (session : Session τ),
      (∀ turns, run transport operations session = some turns →
        (∀ turn ∈ turns, turn.IsDialogue transport) ∧
        ∀ frame ∈ (sendsOf turns).map Prod.fst, ∃ request data message,
          Frame.ofRequest? request data = some message ∧ frame = message.encode ∧
          frame.length ≤ 1040) ∧
      ∀ other, transport.AgreeUpTo 1040 other →
        run other operations session = run transport operations session) ∧
    (∀ image : Bytes, Image.regionSize ≤ image.length → image.length < UInt64.size →
      let payload := image.drop Image.regionSize
      let total := pageCount payload.length
      ∀ count ≤ total,
        upgrade transport image = (do
          introduce image
          match ← streamUpTo transport payload count with
          | .error e => abort e
          | .ok () => streamFrom transport payload count) ∧
        ∃ counters, Counters.after? payload count = some counters ∧
          counters.progress = {
            pagesSent := count
            totalPages := total
            bytesSent := min (1024 * count) payload.length } ∧
          ∀ session,
            (transport.Returns → (streamUpTo transport payload count session).isSome) ∧
            ∀ e, streamUpTo transport payload count session = some e → e.value = .ok () →
              e.session.progress = counters.progress) := by
  refine ⟨fun length => ?_, fun payload => ⟨length_pages payload, fun i hi => ?_⟩,
    fun operations session => ⟨fun turns hrun =>
      ⟨fun turn => dialogue_of_mem_run hrun, fun frame => frame_of_mem_sendsOf hrun⟩,
      fun other hother => run_congr hother operations session⟩, ?_⟩
  · obtain ⟨count, hcount, hexact⟩ := exists_pageCountByWord length
    exact ⟨count, hcount, hexact, hexact ▸ isLeast_pageCount length.toNat⟩
  · exact ⟨cut_eq_getElem_pages payload hi, length_getElem_pages_pos payload hi⟩
  · intro image hregion hlength payload total count hcount
    have hpayload : payload.length < UInt64.size := by
      rw [List.length_drop]
      omega
    obtain ⟨counters, hcounters, hprogress⟩ := Counters.exists_after hpayload hcount
    refine ⟨?_, counters, hcounters, hprogress, fun session =>
      ⟨fun h => total_streamUpTo h payload count session, fun e he hvalue => ?_⟩⟩
    · rw [upgrade_eq hregion, stream_split hcount]
    · rw [hprogress]
      exact progress_of_streamUpTo hcount he hvalue

/-- The greatest length, and an image of two pages, of which the second is a single byte, over a
transport that refuses the second page and would not come back from a longer one. -/
theorem pageCount_agrees_with_loop_second_page :
    let image : Bytes := List.replicate 12 0 ++ List.replicate 1025 7
    let payload := image.drop Image.regionSize
    let session := new (⟨[none, none, some (.transportFault "bus off")], []⟩ : Simulation.Script)
    let strict : Transport Simulation.Script := {
      send := fun state frame =>
        if frame.length ≤ 1040 then Simulation.Script.transport.send state frame else none
      receive := Simulation.Script.transport.receive }
    (∃ count, pageCountByWord 0xFFFFFFFFFFFFFFFF = some count ∧ count.toNat = 2 ^ 54) ∧
    1 < (pages payload).length ∧ cut payload 1024 1025 = pure [7] ∧
    (∃ turns frame, run Simulation.Script.transport [.upgrade image] session = some turns ∧
      frame ∈ (sendsOf turns).map Prod.fst ∧ frame.length = 1040 ∧
      ∃ request data message, Frame.ofRequest? request data = some message ∧
        frame = message.encode) ∧
    Simulation.Script.transport.AgreeUpTo 1040 strict ∧
    (run strict [.upgrade image] session).isSome ∧
    Image.regionSize ≤ image.length ∧ image.length < UInt64.size ∧
    1 ≤ pageCount payload.length ∧
    ∃ e, streamUpTo Simulation.Script.transport payload 1 session = some e ∧ e.value = .ok () ∧
      e.session.progress = { pagesSent := 1, totalPages := 2, bytesSent := 1024 } := by
  intro image payload session strict
  obtain ⟨hcounts, hpages, hruns, hloop⟩ := pageCount_agrees_with_loop Simulation.Script.transport
  have himage : image.length = 1037 := by
    rw [List.length_append, List.length_replicate, List.length_replicate]
  have hpayload : payload.length = 1025 := by
    rw [List.length_drop, himage]
    rfl
  have htotal : pageCount payload.length = 2 := by
    rw [hpayload]
    rfl
  have hreturns : Simulation.Script.transport.Returns := ⟨fun _ _ => rfl, fun _ _ => rfl⟩
  have hagree : Simulation.Script.transport.AgreeUpTo 1040 strict :=
    ⟨fun _ _ h => if_pos h, rfl⟩
  obtain ⟨hframes, hstrict⟩ := hruns [.upgrade image] session
  have hlong : 1 < (pages payload).length := by
    rw [(hpages payload).1, htotal]
    decide
  have hlast : (pages payload)[1] = [7] := by
    have hall : pages payload = [List.replicate 1024 7, [7]] := by decide +kernel
    simp only [hall, List.getElem_cons_succ, List.getElem_cons_zero]
  refine ⟨?_, hlong, ?_, ?_, hagree, ?_, ?_, ?_, ?_, ?_⟩
  · obtain ⟨count, hcount, hexact, _⟩ := hcounts 0xFFFFFFFFFFFFFFFF
    exact ⟨count, hcount, hexact⟩
  · have hcut := ((hpages payload).2 1 hlong).1
    rw [hpayload, hlast] at hcut
    exact hcut
  · have hlengths : (run Simulation.Script.transport [.upgrade image] session).map
        (fun turns => ((sendsOf turns).map Prod.fst).map List.length) = some [28, 1040, 17] := by
      decide +kernel
    obtain ⟨turns, hturns, hlengths⟩ := Option.map_eq_some_iff.mp hlengths
    obtain ⟨frame, hframe, hlength⟩ : ∃ frame ∈ (sendsOf turns).map Prod.fst,
        frame.length = 1040 := by
      rw [← List.mem_map, hlengths]
      decide
    obtain ⟨request, data, message, hmessage, hencode, _⟩ := (hframes turns hturns).2 frame hframe
    exact ⟨turns, frame, hturns, hframe, hlength, request, data, message, hmessage, hencode⟩
  · rw [hstrict strict hagree]
    exact isSome_run hreturns _ _
  · rw [himage]
    decide
  · rw [himage]
    decide
  · rw [htotal]
    decide
  · obtain ⟨_, counters, _, hcounters, hprogress⟩ :=
      hloop image (by rw [himage]; decide) (by rw [himage]; decide) 1 (by rw [htotal]; decide)
    have hvalue : (streamUpTo Simulation.Script.transport payload 1 session).map (·.value) =
        some (.ok ()) := by
      decide +kernel
    obtain ⟨e, he, hvalue⟩ := Option.map_eq_some_iff.mp hvalue
    refine ⟨e, he, hvalue, ?_⟩
    rw [(hprogress session).2 e he hvalue, hcounters]
    show Progress.mk 1 (pageCount payload.length) (min 1024 payload.length) = _
    rw [htotal, hpayload]
    rfl

end Session

end Reflash
