import Reflash.Proofs.Frame.Codec

/-!
# Frames that arrive in parts

A receiver may look at a frame before all of it is there. Decoding passes through four stages:
bytes of the preamble are missing, the preamble is damaged, bytes of the payload are missing, or
everything that the preamble asks for is there. `Stage` tells them apart, and `decode` is worked
out for each of them once.

`verdict_stable` compares two looks at the same frame. A verdict other than that something is
missing is final, and the number of bytes that decoding asks for is enough for a verdict.
-/

namespace Reflash

open Bytes

/-- The checksum in a preamble is that of the words in front of it. -/
def Preamble.Intact (p : Preamble) : Prop :=
  Checksum.ofBytes (covered p.typeId p.length p.payloadCrc) = p.headerCrc

namespace Frame

/-- How far decoding comes with the bytes that are there. -/
inductive Stage : Bytes → Prop where
  | preambleMissing {data} : data.length < Preamble.size → Stage data
  | preambleDamaged (p : Preamble) (rest) : ¬ p.Intact → Stage (p.encode ++ rest)
  | payloadMissing (p : Preamble) (rest) : p.Intact → rest.length < p.length.toNat →
      Stage (p.encode ++ rest)
  | complete (p : Preamble) (rest) : p.Intact → p.length.toNat ≤ rest.length →
      Stage (p.encode ++ rest)

/-- Any bytes at all have come to one of the stages. -/
theorem stage (data : Bytes) : Stage data := by
  rcases Nat.lt_or_ge data.length Preamble.size with hshort | hlong
  · exact .preambleMissing hshort
  · obtain ⟨p, rest, rfl⟩ := Preamble.exists_eq_encode_append hlong
    by_cases hintact : p.Intact
    · rcases Nat.lt_or_ge rest.length p.length.toNat with hmissing | henough
      · exact .payloadMissing p rest hintact hmissing
      · exact .complete p rest hintact henough
    · exact .preambleDamaged p rest hintact

section Verdicts

variable {p : Preamble} {rest : Bytes}

/-- A damaged preamble is reported whatever is behind it. -/
theorem decode_of_not_intact (h : ¬ p.Intact) :
    decode (p.encode ++ rest) = .error (.corruptMessage .header p.headerCrc
      (Checksum.ofBytes (Preamble.covered p.typeId p.length p.payloadCrc))) := by
  rw [decode_preamble_append]
  exact if_pos h

/-- Behind an intact preamble, a payload that is too short is reported as such, and one of the
declared length is judged by its checksum. -/
theorem decode_of_intact (h : p.Intact) :
    decode (p.encode ++ rest) =
      let payload := rest.take p.length.toNat
      if rest.length < p.length.toNat then
        .error (.truncatedMessage (Preamble.size + p.length.toNat) (p.encode ++ rest).length)
      else if Checksum.ofBytes payload ≠ p.payloadCrc then
        .error (.corruptMessage .payload p.payloadCrc (Checksum.ofBytes payload))
      else .ok { toPreamble := p, payload } := by
  rw [decode_preamble_append, List.length_append, Preamble.length_encode]
  exact if_neg (not_not_intro h)

/-- As long as payload is missing, an intact preamble tells how much there should be. -/
theorem decode_of_missing (h : p.Intact) (hmissing : rest.length < p.length.toNat) :
    decode (p.encode ++ rest) = .error (.truncatedMessage (Preamble.size + p.length.toNat)
      (p.encode ++ rest).length) := by
  rw [decode_of_intact h]
  exact if_pos hmissing

/-- Behind an intact preamble and enough payload, the checksum of the payload decides. -/
theorem decode_of_enough (h : p.Intact) (henough : p.length.toNat ≤ rest.length) :
    decode (p.encode ++ rest) =
      let payload := rest.take p.length.toNat
      if Checksum.ofBytes payload ≠ p.payloadCrc then
        .error (.corruptMessage .payload p.payloadCrc (Checksum.ofBytes payload))
      else .ok { toPreamble := p, payload } := by
  rw [decode_of_intact h]
  exact if_neg (Nat.not_lt_of_le henough)

/-- A payload of the declared length is accepted, or it is corrupt. -/
theorem judged_of_enough (h : p.Intact) (henough : p.length.toNat ≤ rest.length) :
    (∃ frame, decode (p.encode ++ rest) = .ok frame) ∨
      ∃ expected actual,
        decode (p.encode ++ rest) = .error (.corruptMessage .payload expected actual) := by
  rw [decode_of_enough h henough]
  dsimp only
  split
  · exact .inr ⟨_, _, rfl⟩
  · exact .inl ⟨_, rfl⟩

/-- Bytes behind the declared payload do not count. -/
theorem decode_append_of_enough (h : p.Intact) (henough : p.length.toNat ≤ rest.length)
    (more : Bytes) : decode (p.encode ++ (rest ++ more)) = decode (p.encode ++ rest) := by
  have hlonger : p.length.toNat ≤ (rest ++ more).length := by
    rw [List.length_append]
    exact Nat.le_trans henough (Nat.le_add_right _ _)
  rw [decode_of_enough h henough, decode_of_enough h hlonger,
    List.take_append_of_le_length henough]

end Verdicts

variable {data : Bytes}

/-- What is missing: a part of the preamble, or a part of the payload behind an intact preamble. -/
theorem missing_of_truncated {needed available : Nat}
    (h : decode data = .error (.truncatedMessage needed available)) :
    available = data.length ∧
      ((data.length < Preamble.size ∧ needed = Preamble.size) ∨
        ∃ p rest, data = Preamble.encode p ++ rest ∧ p.Intact ∧ rest.length < p.length.toNat ∧
          needed = Preamble.size + p.length.toNat) := by
  cases stage data with
  | preambleMissing hshort =>
      rw [decode_of_short hshort] at h
      cases h
      exact ⟨rfl, .inl ⟨hshort, rfl⟩⟩
  | preambleDamaged p rest hdamaged =>
      rw [decode_of_not_intact hdamaged] at h
      cases h
  | payloadMissing p rest hintact hmissing =>
      rw [decode_of_missing hintact hmissing] at h
      cases h
      exact ⟨rfl, .inr ⟨p, rest, rfl, hintact, hmissing, rfl⟩⟩
  | complete p rest hintact henough =>
      rcases judged_of_enough hintact henough with ⟨_, hjudged⟩ | ⟨_, _, hjudged⟩
      · rw [hjudged] at h
        cases h
      · rw [hjudged] at h
        cases h

/-- Once nothing is missing, further bytes change nothing. -/
theorem decode_append_of_settled
    (h : ∀ needed available, decode data ≠ .error (.truncatedMessage needed available))
    (more : Bytes) : decode (data ++ more) = decode data := by
  cases stage data with
  | preambleMissing hshort => exact absurd (decode_of_short hshort) (h _ _)
  | preambleDamaged p rest hdamaged =>
      rw [List.append_assoc, decode_of_not_intact hdamaged, decode_of_not_intact hdamaged]
  | payloadMissing p rest hintact hmissing =>
      exact absurd (decode_of_missing hintact hmissing) (h _ _)
  | complete p rest hintact henough =>
      rw [List.append_assoc, decode_append_of_enough hintact henough]

/-- As long as there are fewer bytes than asked for, decoding asks for the same number. -/
theorem decode_append_of_truncated {needed available : Nat}
    (h : decode data = .error (.truncatedMessage needed available)) {more : Bytes}
    (hmore : (data ++ more).length < needed) :
    decode (data ++ more) = .error (.truncatedMessage needed (data ++ more).length) := by
  obtain ⟨_, ⟨_, rfl⟩ | ⟨p, rest, rfl, hintact, _, rfl⟩⟩ := missing_of_truncated h
  · exact decode_of_short hmore
  · rw [List.append_assoc] at hmore ⊢
    refine decode_of_missing hintact ?_
    rw [List.length_append, Preamble.length_encode] at hmore
    omega

/-- With as many bytes as a preamble asked for, the payload is judged. -/
theorem judged_of_truncated {needed available : Nat}
    (h : decode data = .error (.truncatedMessage needed available)) {more : Bytes}
    (hpayload : Preamble.size < needed) (hmore : needed ≤ (data ++ more).length) :
    (∃ frame, decode (data ++ more) = .ok frame) ∨
      ∃ expected actual,
        decode (data ++ more) = .error (.corruptMessage .payload expected actual) := by
  obtain ⟨_, ⟨_, rfl⟩ | ⟨p, rest, rfl, hintact, _, rfl⟩⟩ := missing_of_truncated h
  · exact absurd hpayload (Nat.lt_irrefl _)
  · rw [List.append_assoc] at hmore ⊢
    refine judged_of_enough hintact ?_
    rw [List.length_append, Preamble.length_encode] at hmore
    omega

/-- The preamble of a request is intact. -/
theorem intact_ofRequest (request : Request) (payload : Bytes) :
    (ofRequest request payload).toPreamble.Intact := rfl

/-- Of a frame that is not all there something is missing: the preamble first, then the payload. -/
theorem decode_of_prefix {request : Request} {payload : Bytes} (hsize : payload.length < 2 ^ 32)
    (hinitial : data <+: request.encode payload) (hne : data ≠ request.encode payload) :
    decode data = .error (.truncatedMessage
      (if data.length < Preamble.size then Preamble.size else Preamble.size + payload.length)
      data.length) := by
  split
  · next hshort => exact decode_of_short hshort
  · next hlong =>
      let preamble := (ofRequest request payload).toPreamble
      have hlength : preamble.length.toNat = payload.length := UInt32.toNat_ofNat_of_lt' hsize
      -- what is there of the frame is its preamble and the first bytes of its payload
      have hframe : request.encode payload = preamble.encode ++ payload := rfl
      rw [hframe] at hinitial hne
      obtain ⟨rest, rfl⟩ : preamble.encode <+: data := by
        refine List.prefix_of_prefix_length_le (List.prefix_append _ payload) hinitial ?_
        rw [Preamble.length_encode]
        exact Nat.le_of_not_lt hlong
      have hrest : rest <+: payload := (List.prefix_append_right_inj _).mp hinitial
      have hmissing : rest.length < payload.length := by
        refine Nat.lt_of_le_of_ne hrest.length_le fun hall => hne ?_
        rw [hrest.eq_of_length hall]
      rw [decode_of_missing (intact_ofRequest request payload) (by rwa [hlength]), hlength]

/-- Two looks at a frame that arrives in parts. A frame that was decoded, and corruption that was
found, stay as they are when more bytes come. If something is missing, decoding says how many bytes
are there and asks for more than these; with too few it asks for the same number again, and with
as many as an intact preamble asked for it judges the payload. Of a proper part of a frame the
preamble is missing first, and then the payload. -/
theorem verdict_stable :
    (∀ (data more : Bytes) (frame : Frame), decode data = .ok frame →
      decode (data ++ more) = .ok frame) ∧
    (∀ (data more : Bytes) (part : FramePart) (expected actual : UInt32),
      decode data = .error (.corruptMessage part expected actual) →
      decode (data ++ more) = .error (.corruptMessage part expected actual)) ∧
    (∀ (data : Bytes) (needed available : Nat),
      decode data = .error (.truncatedMessage needed available) →
      available = data.length ∧ available < needed ∧
      ∀ more : Bytes,
        ((data ++ more).length < needed →
          decode (data ++ more) = .error (.truncatedMessage needed (data ++ more).length)) ∧
        (16 < needed → needed ≤ (data ++ more).length →
          (∃ frame, decode (data ++ more) = .ok frame) ∨
          ∃ expected actual,
            decode (data ++ more) = .error (.corruptMessage .payload expected actual))) ∧
    (∀ (request : Request) (payload data : Bytes), payload.length < 2 ^ 32 →
      data <+: request.encode payload → data ≠ request.encode payload →
      decode data = .error (.truncatedMessage
        (if data.length < 16 then 16 else 16 + payload.length) data.length)) := by
  refine ⟨?_, ?_, ?_, fun request payload data => decode_of_prefix⟩
  · intro data more frame h
    rw [decode_append_of_settled (by simp [h]), h]
  · intro data more part expected actual h
    rw [decode_append_of_settled (by simp [h]), h]
  · intro data needed available h
    refine ⟨(missing_of_truncated h).1, ?_, fun more =>
      ⟨decode_append_of_truncated h, judged_of_truncated h⟩⟩
    obtain ⟨rfl, ⟨hshort, rfl⟩ | ⟨p, rest, rfl, _, hmissing, rfl⟩⟩ := missing_of_truncated h
    · exact hshort
    · rw [List.length_append, Preamble.length_encode]
      omega

/-- A page of four bytes that arrives in three parts: with five bytes the preamble is missing, with
18 bytes the payload is, and with one byte too many the page is there. -/
theorem verdict_stable_page :
    let whole := Request.data.encode [1, 2, 3, 4]
    decode (whole.take 5) = .error (.truncatedMessage 16 5) ∧
    decode (whole.take 18) = .error (.truncatedMessage 20 18) ∧
    decode (whole.take 18 ++ [3]) = .error (.truncatedMessage 20 19) ∧
    ((∃ frame, decode (whole.take 18 ++ [3, 4, 5]) = .ok frame) ∨
      ∃ expected actual,
        decode (whole.take 18 ++ [3, 4, 5]) = .error (.corruptMessage .payload expected actual)) ∧
    decode (whole ++ [5]) = .ok (ofRequest .data [1, 2, 3, 4]) := by
  intro whole
  obtain ⟨hok, _, htruncated, hinitial⟩ := verdict_stable
  have hsize : ([1, 2, 3, 4] : Bytes).length < 2 ^ 32 := by decide
  have hlength : whole.length = 20 := rfl
  have htake (n : Nat) (hn : n < 20) : whole.take n ≠ whole := by
    intro h
    have hsame := congrArg List.length h
    rw [List.length_take, hlength] at hsame
    omega
  have hmissing := hinitial .data _ _ hsize (List.take_prefix 18 whole) (htake 18 (by decide))
  have hmore := (htruncated _ _ _ hmissing).2.2
  have hwhole : decode whole = .ok (ofRequest .data [1, 2, 3, 4]) := by
    have hdecode := decode_request_append .data [1, 2, 3, 4] [] hsize
    rwa [List.append_nil] at hdecode
  refine ⟨?_, hmissing, (hmore [3]).1 (by decide), ?_, hok _ [5] _ hwhole⟩
  · exact hinitial .data _ _ hsize (List.take_prefix 5 whole) (htake 5 (by decide))
  · exact (hmore [3, 4, 5]).2 (by decide) (by decide)

end Frame

end Reflash
