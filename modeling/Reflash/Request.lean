/-!
# Requests to the device

The firmware manager of a device understands four requests. Each has a number on the wire.
-/

namespace Reflash

/-- A request that the firmware manager understands. -/
inductive Request where
  /-- Ask for the information record. -/
  | info
  /-- Reboot the device. -/
  | reset
  /-- Announce size and checksum of the image about to be streamed. -/
  | header
  /-- One page of image data. -/
  | data
  deriving DecidableEq, Repr

namespace Request

/-- The number of a request on the wire. -/
def code : Request → UInt32
  | .info => 0
  | .reset => 1
  | .header => 2
  | .data => 3

/-- The request with a given number, if there is one. -/
def ofCode? (code : UInt32) : Option Request :=
  if code = 0 then some .info
  else if code = 1 then some .reset
  else if code = 2 then some .header
  else if code = 3 then some .data
  else none

/-- The name of a request. -/
def name : Request → String
  | .info => "InfoRequest"
  | .reset => "ResetRequest"
  | .header => "HeaderRequest"
  | .data => "DataRequest"

/-- A request is told from its code. -/
theorem ofCode?_code (request : Request) : ofCode? request.code = some request := by
  cases request <;> rfl

end Request

end Reflash
