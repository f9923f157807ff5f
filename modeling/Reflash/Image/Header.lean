import Reflash.Bytes.Reader
import Reflash.Image.Basic
import Reflash.Text.Field

/-!
# The extended image header

Newer images use the linker's word for a magic number and the version of the header's layout, and
carry build metadata behind the header region: the kind of image, the software version, the
address of the vector table, a reserved word and the commit of the build. Images without the magic
number are images all the same; they only carry no metadata.
-/

namespace Reflash.Image

/-- What an image is for. -/
inductive Kind where
  | application
  | bootloader
  /-- A number that stands for no known kind. -/
  | unknown (code : UInt32)
  deriving DecidableEq, Repr

/-- The kind with a given number. -/
def Kind.ofCode (code : UInt32) : Kind :=
  if code = 0 then .application
  else if code = 1 then .bootloader
  else .unknown code

/-- A kind for people. -/
def Kind.text : Kind → String
  | .application => "CANDriveApp"
  | .bootloader => "CANDriveBoot"
  | .unknown code => "Unknown(" ++ toString code ++ ")"

/-- The metadata in an extended header. -/
structure Header where
  /-- The version of the header's layout. -/
  headerVersion : UInt16
  /-- The stored checksum of the payload. -/
  crc : UInt32
  /-- The stored size of the payload. -/
  size : UInt32
  /-- The kind of image. -/
  kind : Kind
  /-- The software version. -/
  version : String
  /-- The address of the vector table. -/
  vectorAddress : UInt32
  /-- The commit of the build. -/
  gitSha : String
  deriving DecidableEq, Repr

namespace Header

/-- The number that an extended header starts with. -/
def magic : UInt16 := 0xAABB

/-- The width of the version field. -/
def versionWidth : Nat := 32

/-- The width of the commit field. -/
def gitShaWidth : Nat := 14

/-- The size of an extended header. -/
def packedSize : Nat := 70

/-- Reads an extended header; gives nothing if the magic number is not there. -/
def reader : Bytes.Reader (Option Header) := do
  let start ← Bytes.Reader.u16
  if start ≠ magic then
    return none
  let headerVersion ← Bytes.Reader.u16
  let crc ← Bytes.Reader.u32
  let size ← Bytes.Reader.u32
  let kind ← Bytes.Reader.u32
  let version ← Bytes.Reader.take versionWidth
  let vectorAddress ← Bytes.Reader.u32
  let _ ← Bytes.Reader.u32
  let gitSha ← Bytes.Reader.take gitShaWidth
  return some {
    headerVersion
    crc
    size
    kind := Kind.ofCode kind
    version := Text.ofField version
    vectorAddress
    gitSha := Text.ofField gitSha }

/-- The extended header at the start of an image, if the image is long enough to have one and
starts with the magic number. -/
def parse? (bytes : Bytes) : Option Header :=
  if bytes.length < packedSize then none
  else (reader.value? bytes).join

end Header

end Reflash.Image
