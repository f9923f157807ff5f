import Reflash.Bytes.Basic
import Reflash.Text.Quoted

/-!
# Pages, phases and progress

An image is sent in pages of 1024 bytes, of which the last may be shorter and is never filled up.
A session is always in one phase, and counts the pages and bytes of the upgrade that it is in, or
was in last.
-/

namespace Reflash

/-- The number of image bytes in a full page. -/
def pageSize : Nat := 1024

/-- The number of pages that so many bytes need. -/
def pageCount (length : Nat) : Nat :=
  (length + (pageSize - 1)) / pageSize

/-- The pages of a payload, in order. -/
def pages (payload : Bytes) : List Bytes :=
  payload.blocks pageSize

/-- Where a session is. -/
inductive Phase where
  /-- Nothing has been sent yet. -/
  | idle
  /-- Waiting for the information record. -/
  | queryingInfo
  /-- Announcing the image. -/
  | sendingHeader
  /-- Sending the page with this number, counted from zero. -/
  | streamingData (page : Nat)
  /-- Asking the device to reboot. -/
  | resettingDevice
  /-- The last upgrade sent every page and tried to reset the device. -/
  | completed
  /-- The last upgrade stopped before it had sent everything. -/
  | aborted
  deriving DecidableEq, Repr

namespace Phase

/-- A phase for people. -/
def text : Phase → String
  | .idle => "idle"
  | .queryingInfo => "querying info"
  | .sendingHeader => "sending header"
  | .streamingData page => "streaming page " ++ toString page
  | .resettingDevice => "resetting device"
  | .completed => "completed"
  | .aborted => "aborted"

/-- The description of a phase. -/
def describe : Phase → String
  | .idle => "Idle"
  | .queryingInfo => "QueryingInfo"
  | .sendingHeader => "SendingHeader"
  | .streamingData page =>
    Text.describeFields "StreamingData" [("page_index", toString page)] false
  | .resettingDevice => "ResettingDevice"
  | .completed => "Completed"
  | .aborted => "Aborted"

end Phase

/-- How far an upgrade has come. -/
structure Progress where
  /-- The pages that the transport has taken. -/
  pagesSent : Nat
  /-- The pages of the whole payload. -/
  totalPages : Nat
  /-- The payload bytes in the pages sent. -/
  bytesSent : Nat
  deriving DecidableEq, Repr

namespace Progress

/-- The progress of no upgrade at all. -/
def none : Progress := { pagesSent := 0, totalPages := 0, bytesSent := 0 }

/-- The progress at the start of an upgrade. -/
def start (totalPages : Nat) : Progress := { pagesSent := 0, totalPages, bytesSent := 0 }

/-- The progress once one more page of `size` bytes is sent. -/
def advance (p : Progress) (size : Nat) : Progress :=
  { p with pagesSent := p.pagesSent + 1, bytesSent := p.bytesSent + size }

/-- Whether every page has been sent. -/
def isComplete (p : Progress) : Bool :=
  p.pagesSent = p.totalPages

/-- The description of a progress. -/
def describe (p : Progress) : String :=
  Text.describeFields "Progress" [
    ("pages_sent", toString p.pagesSent),
    ("total_pages", toString p.totalPages),
    ("bytes_sent", toString p.bytesSent)] false

end Progress

end Reflash
