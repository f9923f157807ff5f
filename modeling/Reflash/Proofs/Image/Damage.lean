import Reflash.Proofs.Frame.Damage
import Reflash.Proofs.Image.Stamping

/-!
# Damaged images

A stamped image passes the check (`verify_stamp`), which compares two words of the header region
with what the payload asks for, the size first (`verifyImage_of_le`). Bytes that were lost or added
show in the size, damage to a group of the payload or to the checksum shows in the checksum, and the
linker's word is not looked at: `damage_classified` says which it is.

The stored checksum and the payload belong together: `discrepancy` is zero as long as they fit, and a
flipped bit changes it by as many clocks of one as `distance` says, whether it lies in the checksum
or in the payload. `two_flips_detected` says that two flipped bits never go unnoticed, neither in a
frame nor in a stamped image, as long as the payload is shorter than the period of the register.
-/

namespace Reflash.Image

open Bytes Checksum

/-! ## Which comparison fails -/

/-- The check of an image in terms of its groups. -/
theorem verifyImage_of_le {bytes : Bytes} (h : regionSize ≤ bytes.length) :
    bytes.verifyImage =
      if bytes.group 2 ≠ UInt32.ofNat (bytes.length - regionSize) then
        .error (.invalidImage
          (.sizeMismatch (bytes.group 2) (UInt32.ofNat (bytes.length - regionSize))))
      else if bytes.group 1 ≠ Checksum.ofBytes (bytes.drop regionSize) then
        .error (.crcMismatch (bytes.group 1) (Checksum.ofBytes (bytes.drop regionSize)))
      else .ok () := by
  let image : Image := ⟨bytes, h⟩
  rw [image.agrees_bytes.verifyImage_eq]
  unfold verify expectedStamp
  rw [storedSize_eq_group, storedCrc_eq_group, payload_eq_drop, List.length_drop]

section Verified

variable {bytes : Bytes} (hregion : regionSize ≤ bytes.length)
include hregion

/-- Two of the groups of an image decide whether it passes the check. -/
theorem verifyImage_eq_ok_iff_groups :
    bytes.verifyImage = .ok () ↔
      bytes.group 2 = UInt32.ofNat (bytes.length - regionSize) ∧
        bytes.group 1 = Checksum.ofBytes (bytes.drop regionSize) := by
  let image : Image := ⟨bytes, hregion⟩
  rw [image.agrees_bytes.verifyImage_eq, verify_eq_ok_iff, payload_eq_drop, List.length_drop]

/-- A wrong size is reported whatever the checksum is. -/
theorem verifyImage_of_size_ne (h : bytes.group 2 ≠ UInt32.ofNat (bytes.length - regionSize)) :
    bytes.verifyImage = .error (.invalidImage
      (.sizeMismatch (bytes.group 2) (UInt32.ofNat (bytes.length - regionSize)))) := by
  rw [verifyImage_of_le hregion, if_pos h]

/-- A wrong checksum is reported if the size is right. -/
theorem verifyImage_of_crc_ne (hsize : bytes.group 2 = UInt32.ofNat (bytes.length - regionSize))
    (h : bytes.group 1 ≠ Checksum.ofBytes (bytes.drop regionSize)) :
    bytes.verifyImage =
      .error (.crcMismatch (bytes.group 1) (Checksum.ofBytes (bytes.drop regionSize))) := by
  rw [verifyImage_of_le hregion, if_neg (not_not_intro hsize), if_pos h]

end Verified

section OneGroup

variable {bytes damaged : Bytes} {i : Nat}

/-- In front of the payload, damage to one group leaves the payload as it is. -/
theorem drop_eq_of_agree (h : AgreeOutside i damaged bytes) (hi : i < 3) :
    damaged.drop regionSize = bytes.drop regionSize :=
  h.drop_eq hi

/-- From the payload on, damage to one group changes the checksum that the image asks for. -/
theorem ofBytes_drop_ne_of_agree (h : AgreeOutside i damaged bytes) (hi : 3 ≤ i)
    (hlength : damaged.length = bytes.length) (hne : damaged ≠ bytes) :
    Checksum.ofBytes (damaged.drop regionSize) ≠ Checksum.ofBytes (bytes.drop regionSize) := by
  refine ofBytes_ne_of_agree (h.drop hi) ?_ ?_
  · rw [List.length_drop, List.length_drop, hlength]
  · intro hdrop
    have hbehind : damaged.drop (4 * 3) = bytes.drop (4 * 3) := hdrop
    apply hne
    calc damaged
        = damaged.take (4 * 3) ++ damaged.drop (4 * 3) := (List.take_append_drop _ _).symm
      _ = bytes.take (4 * 3) ++ bytes.drop (4 * 3) := by rw [h.take_eq hi, hbehind]
      _ = bytes := List.take_append_drop _ _

variable (hregion : regionSize ≤ bytes.length) (hverified : bytes.verifyImage = .ok ())
  (h : AgreeOutside i damaged bytes) (hlength : damaged.length = bytes.length)
include hregion hverified h hlength

/-- The linker's word may be anything. -/
theorem verifyImage_of_agree_linker (hi : i = 0) : damaged.verifyImage = .ok () := by
  subst hi
  obtain ⟨hsize, hcrc⟩ := (verifyImage_eq_ok_iff_groups hregion).mp hverified
  rw [verifyImage_eq_ok_iff_groups (hlength ▸ hregion), h.group_eq (by decide),
    h.group_eq (by decide), drop_eq_of_agree h (by decide), hlength]
  exact ⟨hsize, hcrc⟩

/-- Damage to the checksum or to a group of the payload shows in the checksum. -/
theorem verifyImage_of_agree_crc (hne : damaged ≠ bytes) (hi : i = 1 ∨ 3 ≤ i) :
    damaged.verifyImage =
      .error (.crcMismatch (damaged.group 1) (Checksum.ofBytes (damaged.drop regionSize))) := by
  obtain ⟨hsize, hcrc⟩ := (verifyImage_eq_ok_iff_groups hregion).mp hverified
  apply verifyImage_of_crc_ne (hlength ▸ hregion)
  · rw [h.group_eq (by omega), hlength, hsize]
  · rcases hi with rfl | hi
    · rw [drop_eq_of_agree h (by decide), ← hcrc]
      exact h.group_ne hlength hne
    · rw [h.group_eq (by omega), hcrc]
      exact (ofBytes_drop_ne_of_agree h hi hlength hne).symm

/-- Damage to the size shows in the size. -/
theorem verifyImage_of_agree_size (hne : damaged ≠ bytes) (hi : i = 2) :
    damaged.verifyImage = .error (.invalidImage
      (.sizeMismatch (damaged.group 2) (UInt32.ofNat (damaged.length - regionSize)))) := by
  subst hi
  obtain ⟨hsize, _⟩ := (verifyImage_eq_ok_iff_groups hregion).mp hverified
  apply verifyImage_of_size_ne (hlength ▸ hregion)
  rw [hlength, ← hsize]
  exact h.group_ne hlength hne

end OneGroup

/-- Sizes below 4 GiB are told apart. -/
theorem ofNat_ne_of_lt {n m : Nat} (hn : n < 2 ^ 32) (hm : m < 2 ^ 32) (hne : n ≠ m) :
    UInt32.ofNat n ≠ UInt32.ofNat m := by
  intro h
  apply hne
  rw [← UInt32.toNat_ofNat_of_lt' hn, h, UInt32.toNat_ofNat_of_lt' hm]

/-- Lost and added bytes show in the size: another payload behind the same header region, if it is of
another length, does not pass. -/
theorem verifyImage_of_resized {bytes resized : Bytes} (hregion : regionSize ≤ bytes.length)
    (hverified : bytes.verifyImage = .ok ()) (hregion' : regionSize ≤ resized.length)
    (hsame : resized.group 2 = bytes.group 2) (hne : resized.length ≠ bytes.length)
    (hsize : bytes.length - regionSize < 2 ^ 32) (hsize' : resized.length - regionSize < 2 ^ 32) :
    resized.verifyImage = .error (.invalidImage
      (.sizeMismatch (bytes.group 2) (UInt32.ofNat (resized.length - regionSize)))) := by
  obtain ⟨hstored, _⟩ := (verifyImage_eq_ok_iff_groups hregion).mp hverified
  rw [← hsame]
  apply verifyImage_of_size_ne hregion'
  rw [hsame, hstored]
  exact ofNat_ne_of_lt hsize hsize' (by omega)

/-- Damage to a stamped image is noticed and told apart. Whatever happens to the linker's word, the
image passes. Damage to the checksum, or to one aligned group of four bytes of the payload, of which
the last may be shorter, is reported as a wrong checksum, with the checksum that is stored and that
of the payload as they are now. Damage to the size, a cut that leaves the header region, and anything
put behind are reported as a wrong size, and a deeper cut as a missing header region. -/
theorem damage_classified (bytes : Bytes) (hregion : regionSize ≤ bytes.length)
    (hsize : bytes.length - regionSize < 2 ^ 32) :
    ∃ stamped, bytes.stamped = .ok stamped ∧
      (∀ (damaged : Bytes) (i : Nat), damaged.length = stamped.length →
        (∀ j, j / 4 ≠ i → damaged[j]? = stamped[j]?) →
          (i = 0 → damaged.verifyImage = .ok ()) ∧
          (damaged ≠ stamped → i = 1 ∨ 3 ≤ i → damaged.verifyImage = .error
            (.crcMismatch (damaged.group 1) (Checksum.ofBytes (damaged.drop regionSize)))) ∧
          (damaged ≠ stamped → i = 2 → damaged.verifyImage = .error (.invalidImage
            (.sizeMismatch (damaged.group 2) (UInt32.ofNat (damaged.length - regionSize)))))) ∧
      (∀ length < stamped.length,
        (regionSize ≤ length → verifyImage (stamped.take length) = .error (.invalidImage
          (.sizeMismatch (stamped.group 2) (UInt32.ofNat (length - regionSize))))) ∧
        (length < regionSize → verifyImage (stamped.take length) = .error (.invalidImage
          (.short length regionSize)))) ∧
      ∀ more : Bytes, more ≠ [] → stamped.length + more.length - regionSize < 2 ^ 32 →
        verifyImage (stamped ++ more) = .error (.invalidImage (.sizeMismatch (stamped.group 2)
          (UInt32.ofNat (stamped.length + more.length - regionSize)))) := by
  let image : Image := ⟨bytes, hregion⟩
  refine ⟨image.stamp.bytes, image.agrees_bytes.stamped_eq, ?_⟩
  have hverified : image.stamp.bytes.verifyImage = .ok () := by
    rw [image.stamp.agrees_bytes.verifyImage_eq, verify_stamp]
  have hregion' : regionSize ≤ image.stamp.bytes.length := image.stamp.region_le
  have hsize' : image.stamp.bytes.length - regionSize < 2 ^ 32 := by rwa [length_stamp]
  -- from here on it only counts that these bytes pass the check
  generalize image.stamp.bytes = stamped at hverified hregion' hsize'
  refine ⟨?_, ?_, ?_⟩
  · intro damaged i hlength h
    exact ⟨verifyImage_of_agree_linker hregion' hverified h hlength,
      verifyImage_of_agree_crc hregion' hverified h hlength,
      verifyImage_of_agree_size hregion' hverified h hlength⟩
  · intro length hcut
    have hlength : (stamped.take length).length = length := List.length_take_of_le hcut.le
    constructor
    · intro hlong
      have hresized := verifyImage_of_resized hregion' hverified (hlength.symm ▸ hlong)
        (group_take stamped hlong) (by omega) hsize' (by omega)
      rwa [hlength] at hresized
    · intro hshort
      have hshort' : (stamped.take length).length < regionSize := hlength.symm ▸ hshort
      rw [(refused_of_lt hshort').verifyImage_eq, hlength]
  · intro more hmore hbelow
    have hlength : (stamped ++ more).length = stamped.length + more.length := List.length_append
    have hadded : 0 < more.length := List.length_pos_iff.mpr hmore
    have hresized := verifyImage_of_resized hregion' hverified (by omega)
      (group_append more hregion') (by omega) hsize' (by omega)
    rwa [hlength] at hresized

/-- An image of two bytes of payload: a bit of the linker's word, of the size and of the last group,
which is shorter, one byte less and a zero more. -/
theorem damage_classified_two_bytes :
    regionSize ≤ (List.replicate 14 (7 : UInt8)).length ∧
    (List.replicate 14 (7 : UInt8)).length - regionSize < 2 ^ 32 ∧
    ∃ stamped, Bytes.stamped (List.replicate 14 7) = .ok stamped ∧
      (stamped.flipBit 0).verifyImage = .ok () ∧
      (∃ stored, (stamped.flipBit 70).verifyImage =
        .error (.invalidImage (.sizeMismatch stored 2))) ∧
      (∃ expected actual, (stamped.flipBit 111).verifyImage =
        .error (.crcMismatch expected actual)) ∧
      (∃ stored, verifyImage (stamped.take 13) = .error (.invalidImage (.sizeMismatch stored 1))) ∧
      ∃ stored, verifyImage (stamped ++ [0]) = .error (.invalidImage (.sizeMismatch stored 3)) := by
  refine ⟨by decide, by decide, ?_⟩
  obtain ⟨stamped, hstamped, hgroups, hcuts, hadded⟩ :=
    damage_classified (List.replicate 14 7) (by decide) (by decide)
  have hlength : stamped.length = 14 := by
    cases hstamped
    rfl
  have hflip (bit : Nat) := hgroups (stamped.flipBit bit) (bit / 32) (length_flipBit stamped bit)
    (agreeOutside_flipBit stamped bit)
  refine ⟨stamped, hstamped, (hflip 0).1 rfl, ?_, ?_, ?_, ?_⟩
  · have hresult := (hflip 70).2.2 (flipBit_ne (by omega)) rfl
    rw [length_flipBit, hlength] at hresult
    exact ⟨_, hresult⟩
  · exact ⟨_, _, (hflip 111).2.1 (flipBit_ne (by omega)) (.inr (by decide))⟩
  · exact ⟨_, (hcuts 13 (by omega)).1 (by decide)⟩
  · have hresult := hadded [0] (by decide) (by rw [hlength]; decide)
    rw [hlength] at hresult
    exact ⟨_, hresult⟩

/-! ## Flipped bits -/

/-- What the stored checksum and that of the payload differ in. -/
def discrepancy (bytes : Bytes) : UInt32 :=
  bytes.group 1 ^^^ Checksum.ofBytes (bytes.drop regionSize)

/-- The number of clocks by which a bit of the stored checksum or of the payload counts. -/
def distance (length bit : Nat) : Nat :=
  if bit < 64 then bit - 32 else reach (length - regionSize) (bit - 8 * regionSize)

section Distance

variable {length first second : Nat}

/-- Different bits count differently. -/
theorem distance_inj (hfirst : 32 ≤ first) (hfirst' : first / 32 ≠ 2) (hsecond : 32 ≤ second)
    (hsecond' : second / 32 ≠ 2) (hlength : first < 8 * length) (hlength' : second < 8 * length)
    (h : distance length first = distance length second) : first = second := by
  unfold distance reach regionSize at h
  split at h
  · split at h
    · omega
    · omega
  · split at h
    · omega
    · omega

/-- In images of bounded length no bit counts a whole period of the register. -/
theorem distance_lt (bit : Nat) (hlength : length - regionSize ≤ 2 ^ 29 - 8) :
    distance length bit < 2 ^ 32 - 1 := by
  have hreach := reach_lt (length - regionSize) (bit - 8 * regionSize)
  unfold distance
  split
  · omega
  · omega

end Distance

section Flips

variable {bytes : Bytes} {bit : Nat}

/-- A flipped bit outside the size changes the discrepancy by its distance. -/
theorem discrepancy_flipBit (hbit : 32 ≤ bit) (hsize : bit / 32 ≠ 2)
    (hlength : bit < 8 * bytes.length) :
    discrepancy (bytes.flipBit bit) =
      discrepancy bytes ^^^ clocks (distance bytes.length bit) 1 := by
  unfold discrepancy distance
  rw [group_flipBit hlength]
  by_cases hcrc : bit < 64
  · -- the bit lies in the checksum, and the payload is intact
    have hwhere : 1 = bit / 32 := by omega
    rw [if_pos hwhere, if_pos hcrc, drop_flipBit_of_lt (by unfold regionSize; omega),
      ofNat_two_pow_eq_clocks (Nat.mod_lt _ (by omega)), show bit % 32 = bit - 32 by omega]
    ac_rfl
  · -- the bit lies in the payload, and the checksum is intact
    have hwhere : ¬ 1 = bit / 32 := by omega
    rw [if_neg hwhere, if_neg hcrc, drop_flipBit_of_le (by unfold regionSize; omega),
      ofBytes_flipBit (by rw [List.length_drop]; unfold regionSize; omega), List.length_drop,
      UInt32.xor_zero, UInt32.xor_assoc]

end Flips

section Twice

variable {bytes : Bytes} {first second : Nat}

/-- Two flipped bits do not leave a group intact that one of them lies in. -/
theorem group_flipBit_flipBit_ne (hfirst : first < 8 * bytes.length)
    (hsecond : second < 8 * bytes.length) (hne : first ≠ second) {i : Nat}
    (hi : i = first / 32 ∨ i = second / 32) :
    ((bytes.flipBit first).flipBit second).group i ≠ bytes.group i := by
  intro heq
  rw [group_flipBit (by rwa [length_flipBit]), group_flipBit hfirst, UInt32.xor_assoc] at heq
  have hnoise := UInt32.xor_eq_zero_iff.mp (eq_zero_of_xor_eq heq)
  have hplace (bit : Nat) : bit % 32 < 32 := Nat.mod_lt _ (by omega)
  simp only [ofNat_two_pow_eq_clocks (hplace _)] at hnoise
  have hsome (bit : Nat) : clocks (bit % 32) 1 ≠ 0 :=
    fun h => absurd (eq_zero_of_clocks_eq_zero h) (by decide)
  by_cases hone : i = first / 32
  · rw [if_pos hone] at hnoise
    by_cases hother : i = second / 32
    · rw [if_pos hother] at hnoise
      exact clocks_one_ne (by omega) (by omega) (by omega) hnoise
    · rw [if_neg hother] at hnoise
      exact hsome first hnoise
  · rw [if_neg hone, if_pos (hi.resolve_left hone)] at hnoise
    exact hsome second hnoise.symm

/-- Two bits behind the first word and outside the stored size, flipped, show in the discrepancy. -/
theorem discrepancy_flipBit_flipBit_ne (hpayload : bytes.length - regionSize ≤ 2 ^ 29 - 8)
    (hfirst : 32 ≤ first) (hfirst' : first / 32 ≠ 2) (hlength : first < 8 * bytes.length)
    (hsecond : 32 ≤ second) (hsecond' : second / 32 ≠ 2) (hlength' : second < 8 * bytes.length)
    (hne : first ≠ second) :
    discrepancy ((bytes.flipBit first).flipBit second) ≠ discrepancy bytes := by
  intro heq
  rw [discrepancy_flipBit hsecond hsecond' (by rwa [length_flipBit]),
    discrepancy_flipBit hfirst hfirst' hlength, length_flipBit, UInt32.xor_assoc] at heq
  have heffects := UInt32.xor_eq_zero_iff.mp (eq_zero_of_xor_eq heq)
  refine clocks_one_ne (distance_lt first hpayload) (distance_lt second hpayload) ?_ heffects
  exact fun h => hne (distance_inj hfirst hfirst' hsecond hsecond' hlength hlength' h)

end Twice

/-- An image that passes the check has no discrepancy. -/
theorem discrepancy_of_verify {image : Image} (h : image.verify = .ok ()) :
    discrepancy image.bytes = 0 := by
  obtain ⟨_, hcrc⟩ := image.verify_eq_ok_iff.mp h
  unfold discrepancy
  rw [hcrc, payload_eq_drop, UInt32.xor_self]

/-- Two flipped bits behind the linker's word are noticed in an image that passed the check. -/
theorem verify_flipBit_flipBit {image : Image} (hverified : image.verify = .ok ())
    {first second : Nat} (hpayload : image.bytes.length - regionSize ≤ 2 ^ 29 - 8)
    (hfirst : 32 ≤ first) (hlength : first < 8 * image.bytes.length)
    (hsecond : 32 ≤ second) (hlength' : second < 8 * image.bytes.length) (hne : first ≠ second)
    {damaged : Image} (hdamaged : damaged.bytes = (image.bytes.flipBit first).flipBit second) :
    ∃ error, damaged.verify = .error error := by
  cases hresult : damaged.verify with
  | error error => exact ⟨error, rfl⟩
  | ok =>
      exfalso
      obtain ⟨hsize, _⟩ := damaged.verify_eq_ok_iff.mp hresult
      obtain ⟨hsize', _⟩ := image.verify_eq_ok_iff.mp hverified
      have hcount : damaged.payload.length = image.payload.length := by
        rw [payload_eq_drop, payload_eq_drop, List.length_drop, List.length_drop, hdamaged,
          length_flipBit, length_flipBit]
      -- the size is intact, so neither bit lies in it, and the discrepancy decides
      have hintact : ((image.bytes.flipBit first).flipBit second).group 2 =
          image.bytes.group 2 := by
        rw [← hdamaged, hsize, hcount, hsize']
      have houtside : ¬ (2 = first / 32 ∨ 2 = second / 32) :=
        fun h => group_flipBit_flipBit_ne hlength hlength' hne h hintact
      apply discrepancy_flipBit_flipBit_ne hpayload hfirst (by omega) hlength hsecond (by omega)
        hlength' hne
      rw [← hdamaged, discrepancy_of_verify hresult, discrepancy_of_verify hverified]

/-- Two flipped bits never go unnoticed while the payload is shorter than the period of the
register: in a frame, wherever they lie, they are reported as corruption, and a stamped image in
which they lie anywhere behind the linker's word does not pass the check. -/
theorem two_flips_detected :
    (∀ (request : Request) (payload : Bytes) (first second : Nat),
      payload.length ≤ 2 ^ 29 - 8 → first < 8 * (request.encode payload).length →
      second < 8 * (request.encode payload).length → first ≠ second →
      ∃ part expected actual,
        Frame.decode (((request.encode payload).flipBit first).flipBit second) =
          .error (.corruptMessage part expected actual)) ∧
    (∀ bytes : Bytes, regionSize ≤ bytes.length → bytes.length - regionSize ≤ 2 ^ 29 - 8 →
      ∃ stamped, bytes.stamped = .ok stamped ∧
        ∀ first second : Nat, 8 * crcOffset ≤ first → first < 8 * stamped.length →
          8 * crcOffset ≤ second → second < 8 * stamped.length → first ≠ second →
          ∃ error, ((stamped.flipBit first).flipBit second).verifyImage = .error error) := by
  constructor
  · intro request payload first second hsize hfirst hsecond hne
    exact Frame.corrupt_of_flipBit_flipBit request hsize hfirst hsecond hne
  · intro bytes hregion hpayload
    refine ⟨(Image.mk bytes hregion).stamp.bytes, ?_, ?_⟩
    · unfold stamped
      rw [ofBytes_of_le hregion]
      rfl
    · generalize hstamp : (Image.mk bytes hregion).stamp = stamp
      have hverified : stamp.verify = .ok () := hstamp ▸ verify_stamp _
      have hlength : stamp.bytes.length = bytes.length := hstamp ▸ length_stamp _
      intro first second hfirst hfirst' hsecond hsecond' hne
      have hregion' : regionSize ≤ ((stamp.bytes.flipBit first).flipBit second).length := by
        rwa [length_flipBit, length_flipBit, hlength]
      obtain ⟨error, herror⟩ : ∃ error, (Image.mk _ hregion').verify = .error error :=
        verify_flipBit_flipBit hverified (by rwa [hlength]) hfirst hfirst' hsecond hsecond' hne rfl
      refine ⟨error, ?_⟩
      unfold verifyImage
      rw [ofBytes_of_le hregion']
      exact herror

/-- A bit of the number of a request and a bit of its payload; a bit of the stored checksum of an
image and a bit of its payload. -/
theorem two_flips_detected_far_apart :
    ([1, 2, 3] : Bytes).length ≤ 2 ^ 29 - 8 ∧
    (∃ part expected actual,
      Frame.decode (((Request.data.encode [1, 2, 3]).flipBit 0).flipBit 150) =
        .error (.corruptMessage part expected actual)) ∧
    ∃ stamped, Bytes.stamped (List.replicate 14 7) = .ok stamped ∧
      ∃ error, ((stamped.flipBit 33).flipBit 111).verifyImage = .error error := by
  have hlength : (Request.data.encode [1, 2, 3]).length = 19 := Frame.length_encode .data [1, 2, 3]
  refine ⟨by decide, ?_, ?_⟩
  · exact two_flips_detected.1 .data [1, 2, 3] 0 150 (by decide) (by omega) (by omega) (by omega)
  · obtain ⟨stamped, hstamped, hflips⟩ := two_flips_detected.2 (List.replicate 14 7) (by decide)
      (by decide)
    have hsize : stamped.length = 14 := by
      cases hstamped
      rfl
    refine ⟨stamped, hstamped, ?_⟩
    exact hflips 33 111 (by decide) (by omega) (by decide) (by omega) (by omega)

end Reflash.Image
