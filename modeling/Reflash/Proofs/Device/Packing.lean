import Reflash.Proofs.Device.Record
import Reflash.Proofs.Text.Field
import Reflash.Proofs.Text.Numeral

/-!
# Packed device records

`Packed` is a device record field by field, as it lies in its 82 bytes; a value of this type cannot
have a field of a wrong width. The reader finds each field in its place (`reader_encode_append`), so
the record is decoded from its bytes (`decode_encode`). `texts_recovered` says this of the texts
that the fields hold: whoever packs them gets them back, and the bytes that are not looked at have
no part in what is decoded.
-/

namespace Reflash.DeviceInfo

open Bytes Text

/-- A device record, field by field. -/
structure Packed where
  typeId : UInt32
  version : Bytes
  hardwareRevision : UInt32
  name : Bytes
  id : UniqueId
  gitSha : Bytes
  length_version : version.length = versionWidth
  length_name : name.length = nameWidth
  length_gitSha : gitSha.length = gitShaWidth

/-- The texts in a device record. -/
structure Texts where
  version : String
  name : String
  gitSha : String
  deriving DecidableEq

/-- Each text can be put into its field. -/
structure Texts.Fit (texts : Texts) : Prop where
  version : '\x00' ∉ texts.version.toList ∧ (Utf8.encode texts.version).length ≤ versionWidth
  name : '\x00' ∉ texts.name.toList ∧ (Utf8.encode texts.name).length ≤ nameWidth
  gitSha : '\x00' ∉ texts.gitSha.toList ∧ (Utf8.encode texts.gitSha).length ≤ gitShaWidth

namespace Packed

/-- The bytes of a device record. -/
def encode (packed : Packed) : Bytes :=
  le32 packed.typeId ++ packed.version ++ le32 packed.hardwareRevision ++ packed.name ++
    le32 packed.id.word1 ++ le32 packed.id.word2 ++ le32 packed.id.word3 ++ packed.gitSha

/-- What is read from a device record. -/
def info (packed : Packed) : DeviceInfo where
  version := ofField packed.version
  hardwareRevision := packed.hardwareRevision
  name := ofField packed.name
  deviceId := packed.id.text
  id := packed.id
  gitSha := ofField packed.gitSha

/-- The fields of the record hold the texts. -/
structure Tells (packed : Packed) (texts : Texts) : Prop where
  version : Holds texts.version packed.version
  name : Holds texts.name packed.name
  gitSha : Holds texts.gitSha packed.gitSha

/-- A packed record always has its full size. -/
theorem length_encode (packed : Packed) : packed.encode.length = size := by
  simp only [encode, List.length_append, length_le32, packed.length_version, packed.length_name,
    packed.length_gitSha]
  rfl

/-- The reader finds each field in its place. -/
theorem reader_encode_append (packed : Packed) (rest : Bytes) :
    reader (packed.encode ++ rest) = some (packed.info, rest) := by
  unfold reader encode
  simp only [Reader.bind_eq_some_iff, Reader.u32_eq_some_iff, Reader.take_eq_some_iff,
    Reader.pure_eq_some_iff, List.append_assoc]
  exact ⟨packed.typeId, _, rfl, packed.version, _, ⟨packed.length_version, rfl⟩,
    packed.hardwareRevision, _, rfl, packed.name, _, ⟨packed.length_name, rfl⟩,
    packed.id.word1, _, rfl, packed.id.word2, _, rfl, packed.id.word3, _, rfl,
    packed.gitSha, _, ⟨packed.length_gitSha, rfl⟩, rfl, rfl⟩

/-- A device record is decoded from its bytes. -/
theorem decode_encode (packed : Packed) : decode packed.encode = .ok packed.info := by
  have hread : reader.value? packed.encode = some packed.info := by
    refine Reader.value?_eq_some_iff.mpr ⟨[], ?_⟩
    rw [← reader_encode_append, List.append_nil]
  unfold decode
  rw [if_neg (not_not_intro packed.length_encode), hread]

/-- The texts that the fields hold are the ones that are read. -/
theorem Tells.info_eq {packed : Packed} {texts : Texts} (h : packed.Tells texts) :
    packed.info = {
      version := texts.version
      hardwareRevision := packed.hardwareRevision
      name := texts.name
      deviceId := packed.id.text
      id := packed.id
      gitSha := texts.gitSha } := by
  unfold info
  rw [ofField_of_holds h.version, ofField_of_holds h.name, ofField_of_holds h.gitSha]

/-- Of records that hold texts, those are read alike that hold the same texts and have the same
revision and id. -/
theorem Tells.info_eq_iff {packed other : Packed} {texts otherTexts : Texts}
    (h : packed.Tells texts) (hother : other.Tells otherTexts) :
    packed.info = other.info ↔ texts = otherTexts ∧
      packed.hardwareRevision = other.hardwareRevision ∧ packed.id = other.id := by
  rw [h.info_eq, hother.info_eq]
  constructor
  · intro hsame
    simp only [DeviceInfo.mk.injEq] at hsame
    obtain ⟨hversion, hrevision, hname, _, hid, hsha⟩ := hsame
    refine ⟨?_, hrevision, hid⟩
    cases texts
    cases otherTexts
    cases hversion
    cases hname
    cases hsha
    rfl
  · rintro ⟨rfl, hrevision, hid⟩
    rw [hrevision, hid]

end Packed

/-- Whatever texts fit can be packed, with any words beside them. -/
theorem Texts.Fit.exists_packed {texts : Texts} (h : texts.Fit) (typeId hardwareRevision : UInt32)
    (id : UniqueId) :
    ∃ packed : Packed, packed.Tells texts ∧ packed.typeId = typeId ∧
      packed.hardwareRevision = hardwareRevision ∧ packed.id = id := by
  obtain ⟨version, hversion, hversionWidth⟩ := exists_holds h.version.1 h.version.2
  obtain ⟨name, hname, hnameWidth⟩ := exists_holds h.name.1 h.name.2
  obtain ⟨gitSha, hsha, hshaWidth⟩ := exists_holds h.gitSha.1 h.gitSha.2
  exact ⟨⟨typeId, version, hardwareRevision, name, id, gitSha, hversionWidth, hnameWidth, hshaWidth⟩,
    ⟨hversion, hname, hsha⟩, rfl, rfl, rfl⟩

/-- The text of an id is put together from the numerals of its words, of which each has just one. -/
theorem exists_numerals (id : UniqueId) :
    ∃ first second third, (∀ numeral, Hex.Numeral id.word1.toNat numeral ↔ numeral = first) ∧
      (∀ numeral, Hex.Numeral id.word2.toNat numeral ↔ numeral = second) ∧
      (∀ numeral, Hex.Numeral id.word3.toNat numeral ↔ numeral = third) ∧
      id.text = String.ofList (first ++ second ++ third) := by
  refine ⟨_, _, _, fun _ => Hex.numeral_iff, fun _ => Hex.numeral_iff,
    fun _ => Hex.numeral_iff, ?_⟩
  rw [String.ofList_append, String.ofList_append]
  simp only [String.ofList_toList]
  rfl

/-- Decoding undoes packing. A record of 82 bytes whose fields hold texts is decoded to exactly these
texts, the revision and the id in it, and the one numeral of each word of the id, the three of them
one after the other. So two such records are decoded alike if and only if they agree in texts,
revision and id; the first word and what is behind a text have no part in it. All texts that fit into
their fields can be packed in this way. -/
theorem texts_recovered :
    (∀ (packed : Packed) (texts : Texts), packed.Tells texts →
      packed.encode.length = 82 ∧
      ∃ first second third,
        (∀ numeral, Hex.Numeral packed.id.word1.toNat numeral ↔ numeral = first) ∧
        (∀ numeral, Hex.Numeral packed.id.word2.toNat numeral ↔ numeral = second) ∧
        (∀ numeral, Hex.Numeral packed.id.word3.toNat numeral ↔ numeral = third) ∧
        decode packed.encode = .ok {
          version := texts.version
          hardwareRevision := packed.hardwareRevision
          name := texts.name
          deviceId := String.ofList (first ++ second ++ third)
          id := packed.id
          gitSha := texts.gitSha }) ∧
    (∀ (packed other : Packed) (texts otherTexts : Texts), packed.Tells texts →
      other.Tells otherTexts →
      (decode packed.encode = decode other.encode ↔ texts = otherTexts ∧
        packed.hardwareRevision = other.hardwareRevision ∧ packed.id = other.id)) ∧
    (∀ (texts : Texts) (typeId hardwareRevision : UInt32) (id : UniqueId), texts.Fit →
      ∃ packed : Packed, packed.Tells texts ∧ packed.typeId = typeId ∧
        packed.hardwareRevision = hardwareRevision ∧ packed.id = id) := by
  refine ⟨?_, ?_, fun texts typeId hardwareRevision id h => h.exists_packed _ _ _⟩
  · intro packed texts htexts
    obtain ⟨first, second, third, hfirst, hsecond, hthird, htext⟩ := exists_numerals packed.id
    refine ⟨packed.length_encode, first, second, third, hfirst, hsecond, hthird, ?_⟩
    rw [packed.decode_encode, htexts.info_eq, htext]
  · intro packed other texts otherTexts htexts hother
    rw [packed.decode_encode, other.decode_encode, Except.ok.injEq, htexts.info_eq_iff hother]

/-- Two records with the same texts, of which the name fills its field and ends in a character of two
bytes. In one of them all bytes that are not looked at are set. -/
theorem texts_recovered_full_width :
    let texts : Texts := ⟨"v1.2.0", "0123456789abcdé", "a1b2c3d"⟩
    texts.Fit ∧ ∃ packed other : Packed, packed.Tells texts ∧ other.Tells texts ∧
      packed.typeId ≠ other.typeId ∧ decode packed.encode = decode other.encode ∧
      ∃ info, decode packed.encode = .ok info ∧ info.name = "0123456789abcdé" := by
  intro texts
  have hfit : texts.Fit := ⟨by decide +kernel, by decide +kernel, by decide +kernel⟩
  obtain ⟨hdecode, hsame, hpacked⟩ := texts_recovered
  obtain ⟨other, hother, htypeId, hrevision, hid⟩ := hpacked texts 0 3 ⟨1, 2, 3⟩ hfit
  let packed : Packed := {
    typeId := 0xFFFFFFFF
    version := Utf8.encode texts.version ++ 0 :: List.replicate 25 0xFF
    hardwareRevision := 3
    name := Utf8.encode texts.name
    id := ⟨1, 2, 3⟩
    gitSha := Utf8.encode texts.gitSha ++ 0 :: List.replicate 6 0xFF
    length_version := by decide +kernel
    length_name := by decide +kernel
    length_gitSha := by decide +kernel }
  have htells : packed.Tells texts :=
    ⟨.ended _ hfit.version.1, .full hfit.name.1, .ended _ hfit.gitSha.1⟩
  obtain ⟨_, _, _, _, _, _, _, hinfo⟩ := hdecode packed texts htells
  refine ⟨hfit, packed, other, htells, hother, ?_, ?_, _, hinfo, rfl⟩
  · rw [htypeId]
    decide
  · exact (hsame packed other texts texts htells hother).mpr ⟨rfl, hrevision.symm, hid.symm⟩

end Reflash.DeviceInfo
