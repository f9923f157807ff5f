import Reflash.Duration
import Reflash.Text.Hex

/-!
# What can go wrong

Errors are recorded by cause; `Error.message` gives each its wording. Two kinds say that the link
gave up rather than that data were bad, and `Error.isLinkFailure` tells them apart from the rest.
A transfer that stopped early carries the error that stopped it.
-/

namespace Reflash

/-- Why a file operation was refused. -/
inductive FileFault where
  | notFound
  | notADirectory
  | isADirectory
  | nameTooLong
  /-- The path holds a character that no file name can hold. -/
  | nulInPath
  /-- The data ended before a field of fixed width was complete. -/
  | endOfData
  /-- A fault that came with a text of its own. -/
  | reported (text : String)
  deriving DecidableEq, Repr

/-- The wording of a file fault. -/
def FileFault.message : FileFault → String
  | .notFound => "No such file or directory (os error 2)"
  | .notADirectory => "Not a directory (os error 20)"
  | .isADirectory => "Is a directory (os error 21)"
  | .nameTooLong => "File name too long (os error 36)"
  | .nulInPath => "file name contained an unexpected NUL byte"
  | .endOfData => "failed to fill whole buffer"
  | .reported text => text

/-- What is wrong with an image. -/
inductive ImageDefect where
  /-- The image of `length` bytes does not even hold the header region of `region` bytes. -/
  | short (length region : Nat)
  /-- The size in the header is not the size of the payload. -/
  | sizeMismatch (stored actual : UInt32)
  /-- A defect that came with a text of its own. -/
  | reported (text : String)
  deriving DecidableEq, Repr

/-- The wording of an image defect. -/
def ImageDefect.message : ImageDefect → String
  | .short length region => s!"image is {length} bytes, header region needs {region}"
  | .sizeMismatch stored actual =>
    s!"header size {stored} does not match payload size {actual}"
  | .reported text => text

/-- What did not happen in time. -/
inductive Lapse where
  /-- A transmission of `size` bytes did not finish within `limit`. -/
  | transmission (size : Nat) (limit : Duration)
  /-- A lapse that came with a text of its own. -/
  | reported (text : String)
  deriving DecidableEq, Repr

/-- The wording of a lapse. -/
def Lapse.message : Lapse → String
  | .transmission size limit =>
    s!"transmission of {size} bytes not finished after " ++ limit.text
  | .reported text => text

/-- The two parts of a frame that carry a checksum. -/
inductive FramePart where
  | header
  | payload
  deriving DecidableEq, Repr

/-- The name of a frame part. -/
def FramePart.name : FramePart → String
  | .header => "header"
  | .payload => "payload"

/-- An error of the library. -/
inductive Error where
  /-- A file could not be used. -/
  | io (fault : FileFault)
  /-- An image has no header region, or its header is inconsistent. -/
  | invalidImage (defect : ImageDefect)
  /-- The checksum stored in an image is not that of its payload. -/
  | crcMismatch (expected actual : UInt32)
  /-- A checksum carried by a frame is not that of the bytes received. -/
  | corruptMessage (part : FramePart) (expected actual : UInt32)
  /-- A frame ends before the length that it needs. -/
  | truncatedMessage (needed available : Nat)
  /-- A payload of fixed width has another width. -/
  | malformedPayload (expected actual : Nat)
  /-- Something did not happen within the time allowed. -/
  | timeout (lapse : Lapse)
  /-- The transport reported a fault. -/
  | transportFault (reason : String)
  /-- An upgrade stopped before all pages were sent. -/
  | abortedTransfer (pagesSent totalPages : Nat) (source : Error)
  deriving DecidableEq, Repr, Nonempty

/-- What calls end with can be compared, values and errors alike. -/
instance decidableEqResult {ε α : Type} [DecidableEq ε] [DecidableEq α] : DecidableEq (Except ε α)
  | .error first, .error second =>
    decidable_of_iff (first = second) (iff_of_eq (Except.error.injEq first second).symm)
  | .ok first, .ok second =>
    decidable_of_iff (first = second) (iff_of_eq (Except.ok.injEq first second).symm)
  | .error _, .ok _ => .isFalse nofun
  | .ok _, .error _ => .isFalse nofun

namespace Error

/-- The wording of an error. -/
def message : Error → String
  | .io fault => "I/O error: " ++ fault.message
  | .invalidImage defect => "Invalid image: " ++ defect.message
  | .crcMismatch expected actual =>
    "CRC mismatch: expected " ++ Text.Hex.word expected ++ ", got " ++ Text.Hex.word actual
  | .corruptMessage part expected actual =>
    "Corrupt message: " ++ part.name ++ " CRC " ++ Text.Hex.word actual ++
      " does not match transmitted " ++ Text.Hex.word expected
  | .truncatedMessage needed available =>
    s!"Truncated message: need {needed} bytes, got {available}"
  | .malformedPayload expected actual =>
    s!"Malformed payload: expected {expected} bytes, got {actual}"
  | .timeout lapse => "Timeout: " ++ lapse.message
  | .transportFault reason => "Transport fault: " ++ reason
  | .abortedTransfer pagesSent totalPages source =>
    s!"Transfer aborted after {pagesSent}/{totalPages} pages: " ++ source.message

/-- Whether the link gave up, by a fault or for lack of time. -/
def isLinkFailure : Error → Bool
  | .timeout _ => true
  | .transportFault _ => true
  | _ => false

end Error

end Reflash
