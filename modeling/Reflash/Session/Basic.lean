import Reflash.Announcement
import Reflash.Frame
import Reflash.Image.Header
import Reflash.Session.Activity

/-!
# Update sessions

A session talks to the firmware manager of a device: it asks for the information record, streams
an image, and resets the device.

An upgrade announces the payload, sends its pages in order, asks for the information record and
resets the device. The first send that fails among the announcement and the pages ends it: the
device is then not reset and goes on with the image that it has. Once every page is out, the
upgrade is completed whatever becomes of the query, and only the reset decides the result.
-/

namespace Reflash.Session

open Activity

variable {τ : Type}

/-- A session with the standard settings in which nothing has happened yet. -/
def new (transport : τ) : Session τ where
  transport
  config := .standard
  phase := .idle
  progress := .none
  deviceInfo := none

/-- The session with other settings. -/
def withConfig (session : Session τ) (config : Config) : Session τ :=
  { session with config }

/-- Sends a request as one frame. -/
def transmit (transport : Transport τ) (request : Request) (payload : Bytes) :
    Activity τ (Except Error Unit) := do
  let frame := request.encode payload
  log .trace ("Sending " ++ request.name ++ s!" ({frame.length} bytes)")
  send transport frame

/-- Asks for the information record and waits for the response. -/
def fetch (transport : Transport τ) : Activity τ (Except Error (Option Bytes)) := do
  match ← transmit transport .info [] with
  | .error e => return .error e
  | .ok () => receive transport (← current).config.responseTimeout

/-- Asks for the information record and reads the response. A device that does not answer, and a
link that gives up, leave nothing to read. -/
def fetchInfo (transport : Transport τ) : Activity τ (Except Error (Option DeviceInfo)) := do
  log .debug "Requesting firmware information"
  match ← fetch transport with
  | .ok (some payload) =>
    match DeviceInfo.decode payload with
    | .error e => return .error e
    | .ok info =>
      log .info ("Device: " ++ info.text)
      return .ok (some info)
  | .ok none =>
    log .warn ("No firmware information within " ++
      (← current).config.responseTimeout.text)
    return .ok none
  | .error e =>
    if e.isLinkFailure then
      log .warn ("Firmware information unavailable: " ++ e.message)
      return .ok none
    else
      return .error e

/-- Asks the device for its information record. The session stays in its phase, and remembers
what it found out, which is nothing if the query failed. -/
def queryInfo (transport : Transport τ) : Activity τ (Except Error (Option DeviceInfo)) := do
  let before := (← current).phase
  enter .queryingInfo
  let result ← fetchInfo transport
  enter before
  change fun session => { session with
    deviceInfo := match result with
      | .ok info => info
      | .error _ => none }
  return result

/-- Reboots the device, in whatever phase the session is. -/
def reset (transport : Transport τ) : Activity τ (Except Error Unit) := do
  log .info "Resetting device..."
  transmit transport .reset []

/-- Ends an upgrade that cannot go on, with a report of how far it came. -/
def abort (source : Error) : Activity τ (Except Error Unit) := do
  let progress := (← current).progress
  log .warn (s!"Abort firmware upgrade after {progress.pagesSent}/{progress.totalPages} pages: " ++
    source.message)
  enter .aborted
  return .error (.abortedTransfer progress.pagesSent progress.totalPages source)

/-- Records what is known of an image. -/
def introduce (image : Bytes) : Activity τ Unit :=
  match Image.Header.parse? image with
  | none => return ()
  | some header =>
    log .info ("Image: " ++ header.kind.text ++ " " ++ header.version ++ " (" ++ header.gitSha ++
      "), vector table at " ++ Text.Hex.word header.vectorAddress)

/-- Announces a payload. -/
def announce (transport : Transport τ) (payload : Bytes) : Activity τ (Except Error Unit) := do
  let announcement := Announcement.ofPayload payload
  log .info (s!"Upgrading firmware: {announcement.totalLength} bytes, crc " ++
    Text.Hex.word announcement.totalCrc ++ s!", {pageCount payload.length} pages")
  enter .sendingHeader
  transmit transport .header announcement.encode

/-- Sends pages in order, the first of them under the given number, until one fails. -/
def sendPages (transport : Transport τ) : Nat → List Bytes → Activity τ (Except Error Unit)
  | _, [] => return .ok ()
  | number, page :: rest => do
    enter (.streamingData number)
    log .trace s!"Page {number}: {page.length} bytes"
    match ← transmit transport .data page with
    | .error e => return .error e
    | .ok () =>
      change fun session => { session with progress := session.progress.advance page.length }
      let progress := (← current).progress
      log .debug s!"{progress.pagesSent}/{progress.totalPages} pages sent"
      notice (.progress progress.pagesSent progress.totalPages)
      sendPages transport (number + 1) rest

/-- What follows when every page is out. -/
def conclude (transport : Transport τ) : Activity τ (Except Error Unit) := do
  log .info "Firmware transfer done"
  match ← queryInfo transport with
  | .ok (some _) => pure ()
  | .ok none => log .warn "Device did not report its firmware after the transfer"
  | .error e =>
    log .warn ("Could not read firmware information after the transfer: " ++ e.message)
  enter .resettingDevice
  let result ← reset transport
  enter .completed
  match result with
  | .error e =>
    log .warn ("Firmware transferred but the reset request failed: " ++ e.message)
    return .error e
  | .ok () =>
    log .info "Upgrade complete!"
    return .ok ()

/-- Streams the payload of an image to the device and resets it. What is too short to be an image
is refused before anything happens. -/
def upgrade (transport : Transport τ) (image : Bytes) : Activity τ (Except Error Unit) :=
  match image.imagePayload with
  | .error e => return .error e
  | .ok payload => do
    introduce image
    change fun session => { session with progress := .start (pageCount payload.length) }
    match ← announce transport payload with
    | .error e => abort e
    | .ok () =>
      match ← sendPages transport 0 (pages payload) with
      | .error e => abort e
      | .ok () => conclude transport

/-- The description of a session. -/
def describe (session : Session τ) : String :=
  Text.describeFields "TransferSession" [
    ("config", session.config.describe),
    ("phase", session.phase.describe),
    ("progress", session.progress.describe),
    ("device_info", Text.describeOption DeviceInfo.describe session.deviceInfo)] true

end Reflash.Session
