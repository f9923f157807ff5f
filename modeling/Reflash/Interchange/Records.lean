import Reflash.Announcement
import Reflash.DeviceInfo
import Reflash.Image.Header
import Reflash.Interchange.Form
import Reflash.Link.Config
import Reflash.Request
import Reflash.Session.Config
import Reflash.Session.Progress

/-!
# The forms of records and alternatives

For each type that can be handed on, its form.
-/

namespace Reflash.Interchange.Form

/-- Requests, by name. -/
def request : Form Request where
  write r := .text r.name
  read v := do
    let (name, content) ← v.alternative?
    guard (Value.isBare content)
    match name with
    | "InfoRequest" => return .info
    | "ResetRequest" => return .reset
    | "HeaderRequest" => return .header
    | "DataRequest" => return .data
    | _ => none

/-- Kinds of image. -/
def imageKind : Form Image.Kind where
  write
    | .application => .text "Application"
    | .bootloader => .text "Bootloader"
    | .unknown code => .object [("Unknown", word32.write code)]
  read v := do
    let (name, content) ← v.alternative?
    match name with
    | "Application" => if Value.isBare content then return .application else none
    | "Bootloader" => if Value.isBare content then return .bootloader else none
    | "Unknown" => return .unknown (← required word32 content)
    | _ => none

/-- Phases. Only the phase that streams a page carries something, and that has to be an object. -/
def phase : Form Phase where
  write
    | .idle => .text "Idle"
    | .queryingInfo => .text "QueryingInfo"
    | .sendingHeader => .text "SendingHeader"
    | .streamingData page =>
      .object [("StreamingData", .object [("page_index", size.write page)])]
    | .resettingDevice => .text "ResettingDevice"
    | .completed => .text "Completed"
    | .aborted => .text "Aborted"
  read v := do
    let (name, content) ← v.alternative?
    if name = "StreamingData" then
      match content with
      | some (.object fields) =>
        return .streamingData (← required size (fields.lookup "page_index"))
      | _ => none
    else
      guard (Value.isBare content)
      match name with
      | "Idle" => return .idle
      | "QueryingInfo" => return .queryingInfo
      | "SendingHeader" => return .sendingHeader
      | "ResettingDevice" => return .resettingDevice
      | "Completed" => return .completed
      | "Aborted" => return .aborted
      | _ => none

/-- Progress. -/
def progress : Form Progress where
  write p := .object [
    ("pages_sent", size.write p.pagesSent),
    ("total_pages", size.write p.totalPages),
    ("bytes_sent", size.write p.bytesSent)]
  read v := do
    let [pages, total, bytes] ← v.fields? ["pages_sent", "total_pages", "bytes_sent"] | none
    return {
      pagesSent := ← required size pages
      totalPages := ← required size total
      bytesSent := ← required size bytes }

/-- Stamps. -/
def stamp : Form Stamp where
  write s := .object [("crc", word32.write s.crc), ("size", word32.write s.size)]
  read v := do
    let [crc, total] ← v.fields? ["crc", "size"] | none
    return { crc := ← required word32 crc, size := ← required word32 total }

/-- Announcements. -/
def announcement : Form Announcement where
  write a := .object [
    ("total_length", word32.write a.totalLength),
    ("total_crc", word32.write a.totalCrc)]
  read v := do
    let [length, crc] ← v.fields? ["total_length", "total_crc"] | none
    return { totalLength := ← required word32 length, totalCrc := ← required word32 crc }

/-- Unique ids: a list of three words. -/
def uniqueId : Form UniqueId where
  write id := .list (id.toList.map word32.write)
  read
    | .list [a, b, c] => do
      return {
        word1 := ← word32.read a
        word2 := ← word32.read b
        word3 := ← word32.read c }
    | _ => none

/-- Information records. -/
def deviceInfo : Form DeviceInfo where
  write info := .object [
    ("version", text.write info.version),
    ("hardware_revision", word32.write info.hardwareRevision),
    ("name", text.write info.name),
    ("device_id", text.write info.deviceId),
    ("id", uniqueId.write info.id),
    ("git_sha", text.write info.gitSha)]
  read v := do
    let [version, revision, name, deviceId, id, gitSha] ← v.fields?
      ["version", "hardware_revision", "name", "device_id", "id", "git_sha"] | none
    return {
      version := ← required text version
      hardwareRevision := ← required word32 revision
      name := ← required text name
      deviceId := ← required text deviceId
      id := ← required uniqueId id
      gitSha := ← required text gitSha }

/-- Extended image headers. -/
def imageHeader : Form Image.Header where
  write header := .object [
    ("header_version", word16.write header.headerVersion),
    ("crc", word32.write header.crc),
    ("size", word32.write header.size),
    ("image_type", imageKind.write header.kind),
    ("version", text.write header.version),
    ("vector_address", word32.write header.vectorAddress),
    ("git_sha", text.write header.gitSha)]
  read v := do
    let [headerVersion, crc, total, kind, version, vectorAddress, gitSha] ← v.fields?
      ["header_version", "crc", "size", "image_type", "version", "vector_address", "git_sha"]
      | none
    return {
      headerVersion := ← required word16 headerVersion
      crc := ← required word32 crc
      size := ← required word32 total
      kind := ← required imageKind kind
      version := ← required text version
      vectorAddress := ← required word32 vectorAddress
      gitSha := ← required text gitSha }

/-- Settings of a link. -/
def linkConfig : Form Link.Config where
  write config := .object [
    ("max_wait_frames", word32.write config.maxWaitFrames),
    ("send_timeout", duration.write config.sendTimeout),
    ("poll_interval", duration.optional.write config.pollInterval)]
  read v := do
    let [frames, timeout, interval] ← v.fields?
      ["max_wait_frames", "send_timeout", "poll_interval"] | none
    return {
      maxWaitFrames := ← required word32 frames
      sendTimeout := ← required duration timeout
      pollInterval := ← lenient duration interval }

/-- Settings of a session. -/
def sessionConfig : Form Session.Config where
  write config := .object [("response_timeout", duration.write config.responseTimeout)]
  read v := do
    let [timeout] ← v.fields? ["response_timeout"] | none
    return { responseTimeout := ← required duration timeout }

end Reflash.Interchange.Form
