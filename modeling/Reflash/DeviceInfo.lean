import Reflash.Bytes.Reader
import Reflash.Error
import Reflash.Text.Field
import Reflash.Text.Quoted

/-!
# The information record of a device

A device answers an information request with one packed record of 82 bytes: a word that is not
looked at, the firmware version, the hardware revision, the name of the running image, the three
words of the device's unique id, and the abbreviated commit of the build. Texts stand in fields of
fixed width.
-/

namespace Reflash

/-- The unique id of a device. -/
structure UniqueId where
  word1 : UInt32
  word2 : UInt32
  word3 : UInt32
  deriving DecidableEq, Repr

namespace UniqueId

/-- The words in order. -/
def toList (id : UniqueId) : List UInt32 :=
  [id.word1, id.word2, id.word3]

/-- The words as numerals one after the other, without leading zeros. Different ids may have the
same text. -/
def text (id : UniqueId) : String :=
  Text.Hex.digits id.word1.toNat ++ Text.Hex.digits id.word2.toNat ++
    Text.Hex.digits id.word3.toNat

end UniqueId

/-- What a device says about itself. -/
structure DeviceInfo where
  /-- The firmware version. -/
  version : String
  /-- The revision of the board. -/
  hardwareRevision : UInt32
  /-- The name of the running image. -/
  name : String
  /-- The text of the unique id. -/
  deviceId : String
  /-- The unique id itself. -/
  id : UniqueId
  /-- The abbreviated commit of the running firmware. -/
  gitSha : String
  deriving DecidableEq, Repr

namespace DeviceInfo

/-- The width of the version field. -/
def versionWidth : Nat := 32

/-- The width of the name field. -/
def nameWidth : Nat := 16

/-- The width of the commit field. -/
def gitShaWidth : Nat := 14

/-- The size of the record. -/
def size : Nat := 4 + versionWidth + 4 + nameWidth + 3 * 4 + gitShaWidth

/-- Reads a record, field by field. -/
def reader : Bytes.Reader DeviceInfo := do
  let _ ← Bytes.Reader.u32
  let version ← Bytes.Reader.take versionWidth
  let hardwareRevision ← Bytes.Reader.u32
  let name ← Bytes.Reader.take nameWidth
  let word1 ← Bytes.Reader.u32
  let word2 ← Bytes.Reader.u32
  let word3 ← Bytes.Reader.u32
  let gitSha ← Bytes.Reader.take gitShaWidth
  let id : UniqueId := { word1, word2, word3 }
  return {
    version := Text.ofField version
    hardwareRevision
    name := Text.ofField name
    deviceId := id.text
    id
    gitSha := Text.ofField gitSha }

/-- The record that `data` hold. -/
def decode (data : Bytes) : Except Error DeviceInfo :=
  if data.length ≠ size then .error (.malformedPayload size data.length)
  else
    match reader.value? data with
    | none => .error (.io .endOfData)
    | some info => .ok info

/-- The record on one line, for people. -/
def text (info : DeviceInfo) : String :=
  "version=" ++ info.version ++ ", hardware_revision=" ++ toString info.hardwareRevision ++
    ", name=" ++ info.name ++ ", id=" ++ info.deviceId ++ ", git_sha=" ++ info.gitSha

/-- The description of the record with all its fields. -/
def describe (info : DeviceInfo) : String :=
  Text.describeFields "DeviceInfo" [
    ("version", Text.quoted info.version),
    ("hardware_revision", toString info.hardwareRevision),
    ("name", Text.quoted info.name),
    ("device_id", Text.quoted info.deviceId),
    ("id", "[" ++ ", ".intercalate (info.id.toList.map toString) ++ "]"),
    ("git_sha", Text.quoted info.gitSha)] false

end DeviceInfo

end Reflash
