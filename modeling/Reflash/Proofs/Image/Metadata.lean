import Reflash.Image.Header
import Reflash.Proofs.Bytes.Reading
import Reflash.Proofs.Image.Stamping
import Reflash.Proofs.Text.Field

/-!
# Metadata and stamps

An extended header begins in the header region and goes on in the payload, so a stamp is written into
the middle of it. `Header.Packed` is such a header field by field. Every byte string that is long
enough begins with one (`Header.exists_eq_encode_append`), and reading it gives its fields if the
magic number is there (`Header.parse?_encode_append`); nothing else is asked of the bytes
(`Header.isSome_parse?_iff`). A stamp takes the place of two of the fields and leaves the others as
they are (`bytes_withStamp_of_packed`).

`metadata_survives_stamping` draws the conclusions: stamping changes nothing in the metadata but
checksum and size, the two ways to read these words agree, and a header that was packed is read as it
is.
-/

namespace Reflash.Image

open Bytes Bytes.Reader

/-! ## Kinds and their numbers -/

/-- The number of a kind. A number that is that of no known kind is kept. -/
inductive Kind.Numbered : Kind → UInt32 → Prop where
  | application : Numbered .application 0
  | bootloader : Numbered .bootloader 1
  | unknown {code} : code ≠ 0 → code ≠ 1 → Numbered (.unknown code) code

/-- What a code stands for has this code. -/
theorem Kind.numbered_ofCode (code : UInt32) : (Kind.ofCode code).Numbered code := by
  unfold ofCode
  split
  · next h => exact h ▸ .application
  · next hzero =>
      split
      · next h => exact h ▸ .bootloader
      · next hone => exact .unknown hzero hone

/-! ## Packed headers -/

namespace Header

/-- An extended header, field by field. The first field need not be the magic number. -/
structure Packed where
  start : UInt16
  headerVersion : UInt16
  crc : UInt32
  size : UInt32
  code : UInt32
  version : Bytes
  vectorAddress : UInt32
  reserved : UInt32
  gitSha : Bytes
  length_version : version.length = versionWidth
  length_gitSha : gitSha.length = gitShaWidth

namespace Packed

/-- The bytes of an extended header. -/
def encode (packed : Packed) : Bytes :=
  le16 packed.start ++ le16 packed.headerVersion ++ le32 packed.crc ++ le32 packed.size ++
    le32 packed.code ++ packed.version ++ le32 packed.vectorAddress ++ le32 packed.reserved ++
    packed.gitSha

/-- What is read from an extended header. -/
def header (packed : Packed) : Header where
  headerVersion := packed.headerVersion
  crc := packed.crc
  size := packed.size
  kind := Kind.ofCode packed.code
  version := Text.ofField packed.version
  vectorAddress := packed.vectorAddress
  gitSha := Text.ofField packed.gitSha

/-- The stamp in an extended header. -/
def stamp (packed : Packed) : Stamp where
  crc := packed.crc
  size := packed.size

/-- The extended header with another stamp in it. -/
def withStamp (packed : Packed) (stamp : Stamp) : Packed :=
  { packed with crc := stamp.crc, size := stamp.size }

/-- A packed header always has its full size. -/
theorem length_encode (packed : Packed) : packed.encode.length = packedSize := by
  simp only [encode, List.length_append, length_le16, length_le32, packed.length_version,
    packed.length_gitSha]
  rfl

end Packed

/-- Whatever is long enough begins with the fields of some header. -/
theorem exists_eq_encode_append {bytes : Bytes} (h : packedSize ≤ bytes.length) :
    ∃ (packed : Packed) (rest : Bytes), bytes = packed.encode ++ rest := by
  unfold packedSize at h
  obtain ⟨start, after, rfl, _⟩ := exists_eq_le16_append bytes (by omega)
  obtain ⟨headerVersion, after, rfl, _⟩ := exists_eq_le16_append after (by omega)
  obtain ⟨crc, after, rfl, _⟩ := exists_eq_le32_append after (by omega)
  obtain ⟨size, after, rfl, _⟩ := exists_eq_le32_append after (by omega)
  obtain ⟨code, after, rfl, _⟩ := exists_eq_le32_append after (by omega)
  obtain ⟨version, after, hversion, rfl, _⟩ :=
    exists_eq_field_append after 32 (by omega)
  obtain ⟨vectorAddress, after, rfl, _⟩ := exists_eq_le32_append after (by omega)
  obtain ⟨reserved, after, rfl, _⟩ := exists_eq_le32_append after (by omega)
  obtain ⟨gitSha, rest, hsha, rfl, _⟩ :=
    exists_eq_field_append after 14 (by omega)
  refine ⟨⟨start, headerVersion, crc, size, code, version, vectorAddress, reserved, gitSha,
    hversion, hsha⟩, rest, ?_⟩
  simp only [Packed.encode, List.append_assoc]

/-- The reader finds each field in its place. -/
theorem reader_encode_append (packed : Packed) (rest : Bytes) (h : packed.start = magic) :
    reader (packed.encode ++ rest) = some (some packed.header, rest) := by
  unfold reader Packed.encode
  simp only [bind_eq_some_iff, u16_eq_some_iff, List.append_assoc]
  refine ⟨packed.start, _, rfl, ?_⟩
  rw [if_neg (not_not_intro h)]
  simp only [bind_eq_some_iff, u16_eq_some_iff, u32_eq_some_iff, take_eq_some_iff,
    pure_eq_some_iff]
  exact ⟨packed.headerVersion, _, rfl, packed.crc, _, rfl, packed.size, _, rfl, packed.code, _, rfl,
    packed.version, _, ⟨packed.length_version, rfl⟩, packed.vectorAddress, _, rfl,
    packed.reserved, _, rfl, packed.gitSha, _, ⟨packed.length_gitSha, rfl⟩, rfl, rfl⟩

/-- Without the magic number the reader looks no further. -/
theorem reader_of_ne_magic {start : UInt16} (h : start ≠ magic) (rest : Bytes) :
    reader (le16 start ++ rest) = some (none, rest) := by
  unfold reader
  rw [bind_eq_some_iff]
  refine ⟨start, rest, u16_eq_some_iff.mpr rfl, ?_⟩
  rw [if_pos h]
  rfl

/-- Whatever is long enough is read by its fields, if the magic number is there. -/
theorem value?_reader_encode_append (packed : Packed) (rest : Bytes) :
    reader.value? (packed.encode ++ rest) =
      some (if packed.start = magic then some packed.header else none) := by
  split
  · next h => exact value?_eq_some_iff.mpr ⟨rest, reader_encode_append packed rest h⟩
  · next h =>
      obtain ⟨behind, hfront⟩ : ∃ behind, packed.encode ++ rest = le16 packed.start ++ behind := by
        unfold Packed.encode
        simp only [List.append_assoc]
        exact ⟨_, rfl⟩
      rw [hfront]
      exact value?_eq_some_iff.mpr ⟨behind, reader_of_ne_magic h behind⟩

/-- A packed header is found at the front of any bytes, if it begins with the right word. -/
theorem parse?_encode_append (packed : Packed) (rest : Bytes) :
    parse? (packed.encode ++ rest) =
      if packed.start = magic then some packed.header else none := by
  have hlong : ¬ (packed.encode ++ rest).length < packedSize := by
    rw [List.length_append, packed.length_encode]
    omega
  unfold parse?
  rw [if_neg hlong, value?_reader_encode_append]
  rfl

/-- Nothing is found in fewer bytes than a header takes. -/
theorem parse?_of_short {bytes : Bytes} (h : bytes.length < packedSize) : parse? bytes = none := by
  unfold parse?
  exact if_pos h

/-- The reader does not run out of bytes where there are as many as a header has. -/
theorem exists_value?_reader {bytes : Bytes} (h : packedSize ≤ bytes.length) :
    ∃ found, reader.value? bytes = some found := by
  obtain ⟨packed, rest, rfl⟩ := exists_eq_encode_append h
  exact ⟨_, value?_reader_encode_append packed rest⟩

/-- There is a header wherever there are enough bytes and the magic number is in front. -/
theorem isSome_parse?_iff (bytes : Bytes) :
    (parse? bytes).isSome ↔ packedSize ≤ bytes.length ∧ bytes.take 2 = le16 magic := by
  rcases Nat.lt_or_ge bytes.length packedSize with hshort | hlong
  · rw [parse?_of_short hshort]
    exact ⟨fun h => (Bool.noConfusion h), fun h => absurd h.1 (Nat.not_le_of_lt hshort)⟩
  · obtain ⟨packed, rest, rfl⟩ := exists_eq_encode_append hlong
    have hfront : (packed.encode ++ rest).take 2 = le16 packed.start := rfl
    rw [parse?_encode_append, hfront, le16_inj, and_iff_right hlong]
    split
    · next h => exact iff_of_true rfl h
    · next h => exact iff_of_false Bool.noConfusion h

/-- Where a header is read, the bytes begin with its fields. -/
theorem exists_packed_of_parse? {bytes : Bytes} {header : Header} (h : parse? bytes = some header) :
    ∃ (packed : Packed) (rest : Bytes), bytes = packed.encode ++ rest ∧ packed.start = magic ∧
      packed.header = header := by
  rcases Nat.lt_or_ge bytes.length packedSize with hshort | hlong
  · rw [parse?_of_short hshort] at h
    cases h
  · obtain ⟨packed, rest, rfl⟩ := exists_eq_encode_append hlong
    rw [parse?_encode_append] at h
    split at h
    · next hstart => exact ⟨packed, rest, rfl, hstart, Option.some.inj h⟩
    · cases h

/-- The header with another stamp in it. -/
def withStamp (header : Header) (stamp : Stamp) : Header :=
  { header with crc := stamp.crc, size := stamp.size }

/-- The texts that the fields hold are the ones that are read. -/
theorem Packed.header_eq_of_holds {packed : Packed} {version gitSha : String}
    (hversion : Text.Holds version packed.version) (hsha : Text.Holds gitSha packed.gitSha) :
    packed.header = {
      headerVersion := packed.headerVersion
      crc := packed.crc
      size := packed.size
      kind := Kind.ofCode packed.code
      version
      vectorAddress := packed.vectorAddress
      gitSha } := by
  unfold header
  rw [Text.ofField_of_holds hversion, Text.ofField_of_holds hsha]

end Header

/-! ## Stamps in the middle of a header -/

section Stamped

open Header

variable {image : Image} {packed : Packed} {rest : Bytes}

/-- A stamp takes the place of two fields of the header that an image begins with. -/
theorem bytes_withStamp_of_packed (h : image.bytes = packed.encode ++ rest) (stamp : Stamp) :
    (image.withStamp stamp).bytes = (packed.withStamp stamp).encode ++ rest := by
  rw [bytes_withStamp, h]
  rfl

/-- The stamp that is there is the one in the header. -/
theorem storedStamp_of_packed (h : image.bytes = packed.encode ++ rest) :
    image.storedStamp = packed.stamp := by
  have hsame : image.withStamp packed.stamp = image := by
    apply eq_of_bytes_eq
    rw [bytes_withStamp_of_packed h, h]
    rfl
  rw [← hsame, storedStamp_withStamp]

/-- A stamp changes the stamp in the metadata and nothing else, and metadata neither appear nor go. -/
theorem parse?_withStamp (image : Image) (stamp : Stamp) :
    parse? (image.withStamp stamp).bytes = (parse? image.bytes).map (·.withStamp stamp) := by
  rcases Nat.lt_or_ge image.bytes.length packedSize with hshort | hlong
  · have hstamped : (image.withStamp stamp).bytes.length < packedSize := by
      rwa [length_withStamp]
    rw [parse?_of_short hshort, parse?_of_short hstamped, Option.map_none]
  · obtain ⟨packed, rest, hbytes⟩ := exists_eq_encode_append hlong
    rw [bytes_withStamp_of_packed hbytes, hbytes, parse?_encode_append, parse?_encode_append]
    show (if packed.start = magic then _ else _) = _
    split <;> rfl

/-- Checksum and size in the metadata are the words that are stored in the header region. -/
theorem storedStamp_of_parse? {header : Header} (h : parse? image.bytes = some header) :
    image.storedStamp = { crc := header.crc, size := header.size } := by
  obtain ⟨packed, rest, hbytes, _, rfl⟩ := exists_packed_of_parse? h
  exact storedStamp_of_packed hbytes

end Stamped

/-- Stamping leaves the metadata of an image as they are, except for checksum and size: these become
the ones that the image asks for, which are then also read from the header region, and where there
are no metadata there are none afterwards. Wherever metadata are read, their checksum and size are the
words in the header region. An image that begins with a packed header, the magic number in front and
its texts in their fields, has exactly what was packed for its metadata, whatever the reserved word
and the bytes behind the texts and behind the header. -/
theorem metadata_survives_stamping :
    (∀ bytes : Bytes, regionSize ≤ bytes.length → ∃ stamp stamped image, Stamps bytes stamp stamped ∧
      ofBytes stamped = .ok image ∧ image.storedCrc = stamp.crc ∧ image.storedSize = stamp.size ∧
      Header.parse? stamped = (Header.parse? bytes).map fun header =>
        { header with crc := stamp.crc, size := stamp.size }) ∧
    (∀ (bytes : Bytes) (header : Header), Header.parse? bytes = some header →
      ∃ image, ofBytes bytes = .ok image ∧ header.crc = image.storedCrc ∧
        header.size = image.storedSize) ∧
    (∀ (packed : Header.Packed) (version gitSha : String) (rest : Bytes),
      packed.start = Header.magic → Text.Holds version packed.version →
      Text.Holds gitSha packed.gitSha →
      ∃ kind : Kind, kind.Numbered packed.code ∧ Header.parse? (packed.encode ++ rest) = some {
        headerVersion := packed.headerVersion
        crc := packed.crc
        size := packed.size
        kind
        version
        vectorAddress := packed.vectorAddress
        gitSha }) := by
  refine ⟨?_, ?_, ?_⟩
  · intro bytes hregion
    let image : Image := ⟨bytes, hregion⟩
    have hstored : image.stamp.storedStamp = image.expectedStamp :=
      storedStamp_withStamp image image.expectedStamp
    exact ⟨image.expectedStamp, image.stamp.bytes, image.stamp, image.stamps_bytes,
      image.stamp.agrees_bytes.ofBytes_eq, congrArg Stamp.crc hstored, congrArg Stamp.size hstored,
      parse?_withStamp image image.expectedStamp⟩
  · intro bytes header hparse
    have hregion : regionSize ≤ bytes.length := by
      obtain ⟨packed, rest, rfl, _⟩ := Header.exists_packed_of_parse? hparse
      rw [List.length_append, packed.length_encode]
      exact Nat.le_add_right_of_le (by decide)
    let image : Image := ⟨bytes, hregion⟩
    have hstored : image.storedStamp = { crc := header.crc, size := header.size } :=
      storedStamp_of_parse? hparse
    exact ⟨image, ofBytes_of_le hregion, (congrArg Stamp.crc hstored).symm,
      (congrArg Stamp.size hstored).symm⟩
  · intro packed version gitSha rest hstart hversion hsha
    refine ⟨Kind.ofCode packed.code, Kind.numbered_ofCode packed.code, ?_⟩
    rw [Header.parse?_encode_append, if_pos hstart, Header.Packed.header_eq_of_holds hversion hsha]

/-- A boot loader whose commit fills its field, with a wrong stamp and three bytes behind the header.
Once stamped it has the same metadata, but for the size. -/
theorem metadata_survives_stamping_bootloader :
    ∃ (bytes stamped : Bytes) (header : Header), Header.parse? bytes = some header ∧
      header.kind = .bootloader ∧ header.version = "1.4.2" ∧ header.gitSha = "0123456789abcd" ∧
      (∃ image, ofBytes bytes = .ok image ∧ image.storedSize = 7) ∧ bytes.stamped = .ok stamped ∧
      ∃ stored, Header.parse? stamped = some stored ∧ stored.size = 61 ∧ stored.kind = header.kind ∧
        stored.version = header.version ∧ stored.gitSha = header.gitSha := by
  obtain ⟨hstamped, hstored, hpacked⟩ := metadata_survives_stamping
  let packed : Header.Packed := {
    start := Header.magic
    headerVersion := 1
    crc := 0
    size := 7
    code := 1
    version := Text.Utf8.encode "1.4.2" ++ 0 :: List.replicate 26 0xFF
    vectorAddress := 0x08004000
    reserved := 0xFFFFFFFF
    gitSha := Text.Utf8.encode "0123456789abcd"
    length_version := by decide +kernel
    length_gitSha := by decide +kernel }
  obtain ⟨kind, hkind, hread⟩ := hpacked packed "1.4.2" "0123456789abcd" [1, 2, 3] rfl
    (.ended _ (by decide +kernel)) (.full (by decide +kernel))
  have hlength : regionSize ≤ (packed.encode ++ [1, 2, 3]).length := by
    rw [List.length_append, packed.length_encode]
    decide
  obtain ⟨stamp, stamped, _, hstamps, _, _, _, hagain⟩ := hstamped (packed.encode ++ [1, 2, 3]) hlength
  have hsize : stamp.size = 61 := by
    rw [hstamps.size_eq, List.length_append, packed.length_encode]
    rfl
  have hbootloader : kind = .bootloader := by
    cases hkind with
    | bootloader => rfl
    | unknown _ hone => exact absurd rfl hone
  obtain ⟨image, himage, _, himageSize⟩ := hstored _ _ hread
  rw [hread] at hagain
  exact ⟨_, stamped, _, hread, hbootloader, rfl, rfl, ⟨image, himage, himageSize.symm⟩,
    hstamps.stamped_eq, _, hagain, hsize, rfl, rfl, rfl⟩

end Reflash.Image
