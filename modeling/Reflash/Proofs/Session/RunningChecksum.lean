import Reflash.Proofs.Checksum.Streaming
import Reflash.Proofs.Session.Payload

/-!
# The checksum that runs along with the pages

A device need not keep an image to check it: all pages but the last are made of complete groups, so
it can carry the checksum from page to page, and behind the last page the register holds what was
announced before the first (`checksum_carried_across_pages`). The last page is not filled up on the
wire, and a device that fills up its last group with zeros comes to the same checksum.
-/

namespace Reflash.Session

open Checksum

variable {τ : Type}

/-- Carried from page to page, the checksum comes to that of the payload. -/
theorem foldl_update_pages (payload : Bytes) :
    (pages payload).foldl update seed = ofBytes payload := by
  have hgroups : ∀ page ∈ (pages payload).dropLast, 4 ∣ page.length := by
    intro page hpage
    rw [length_eq_of_mem_dropLast_pages hpage]
    decide
  rw [foldl_update seed hgroups, flatten_pages]
  rfl

/-- A checksum can be carried across parts. Behind complete groups it goes on from the register that
they leave, so any parts of which all but the last are made of complete groups lead to the checksum
of the whole; zeros that complete the last group change nothing. The pages of a payload are such
parts: whatever image is sent over whatever transport, carrying the checksum from page to page comes
to the one that was announced in front of them, in the first frame handed to this transport. -/
theorem checksum_carried_across_pages (transport : Transport τ) (session : Session τ) :
    (∀ front rest : Bytes, 4 ∣ front.length →
      ofBytes (front ++ rest) = update (ofBytes front) rest) ∧
    (∀ bytes : Bytes,
      ofBytes (bytes ++ List.replicate ((4 - bytes.length % 4) % 4) 0) = ofBytes bytes) ∧
    (∀ parts : List Bytes, (∀ part ∈ parts.dropLast, 4 ∣ part.length) →
      parts.foldl update seed = ofBytes parts.flatten) ∧
    (∀ payload : Bytes,
      (pages payload).foldl update seed = (Announcement.ofPayload payload).totalCrc) ∧
    (∀ image : Bytes, Image.regionSize ≤ image.length →
      (transport.Returns → (upgrade transport image session).isSome) ∧
      ∀ e, upgrade transport image session = some e → e.IsDialogue transport session ∧
        ∃ frame result later message announcement,
          attempts e.events = (frame, result) :: later ∧
          Frame.decode frame = .ok message ∧ message.request? = some .header ∧
          Announcement.decode message.payload = .ok announcement ∧
          (pages (image.drop Image.regionSize)).foldl update seed = announcement.totalCrc) := by
  refine ⟨fun front rest h => update_append seed h rest, ?_, fun parts => foldl_update seed,
    foldl_update_pages, ?_⟩
  · intro bytes
    refine update_append_zeros seed ?_
    unfold Bytes.groupCount
    omega
  · intro image himage
    refine ⟨fun h => total_upgrade h image session, ?_⟩
    intro e he
    obtain ⟨result, later, hattempts, _⟩ := (course_of_upgrade himage he).announced_once
    refine ⟨dialogue_of_upgrade himage he, ?_⟩
    let region : Image := ⟨image, himage⟩
    obtain ⟨message, announcement, hdecode, hrequest, hannouncement, _, hcrc⟩ :=
      announces_headerFrame region
    refine ⟨_, result, later, message, announcement, hattempts, hdecode, hrequest, hannouncement, ?_⟩
    rw [foldl_update_pages, hcrc, ← region.payload_eq_drop]
    rfl

/-- An image of two pages, of which the second is a single byte, over a transport that refuses the
second. What was announced is the checksum of both pages, carried from one to the other. -/
theorem checksum_carried_across_pages_single_byte :
    let image : Bytes := List.replicate 12 0 ++ List.replicate 1025 7
    let session := new (⟨[none, none, some (.transportFault "bus off")], []⟩ : Simulation.Script)
    4 ∣ ([1, 2, 3, 4] : Bytes).length ∧
    ofBytes ([1, 2, 3, 4] ++ [5, 6, 7]) = update (ofBytes [1, 2, 3, 4]) [5, 6, 7] ∧
    Image.regionSize ≤ image.length ∧
    ∃ e frame result later message announcement,
      upgrade Simulation.Script.transport image session = some e ∧
      attempts e.events = (frame, result) :: later ∧ Frame.decode frame = .ok message ∧
      Announcement.decode message.payload = .ok announcement ∧
      announcement.totalCrc = update (update seed (List.replicate 1024 7)) [7] := by
  intro image session
  obtain ⟨happend, _, hparts, _, hupgrade⟩ :=
    checksum_carried_across_pages Simulation.Script.transport session
  have hgroup : 4 ∣ ([1, 2, 3, 4] : Bytes).length := by decide
  have himage : Image.regionSize ≤ image.length := by
    simp only [image, Image.regionSize, List.length_append, List.length_replicate]
    decide
  have hreturns : Simulation.Script.transport.Returns := ⟨fun _ _ => rfl, fun _ _ => rfl⟩
  obtain ⟨htotal, hannounced⟩ := hupgrade image himage
  obtain ⟨e, he⟩ := Option.isSome_iff_exists.mp (htotal hreturns)
  obtain ⟨_, frame, result, later, message, announcement, hattempts, hdecode, _, hannouncement, hcrc⟩ :=
    hannounced e he
  have hpages : pages (image.drop Image.regionSize) = [List.replicate 1024 7, [7]] := by
    decide +kernel
  rw [hpages] at hcrc
  exact ⟨hgroup, happend _ [5, 6, 7] hgroup, himage, e, frame, result, later, message, announcement,
    he, hattempts, hdecode, hannouncement, hcrc.symm⟩

end Reflash.Session
