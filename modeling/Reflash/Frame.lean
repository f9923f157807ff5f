import Reflash.Bytes.Reader
import Reflash.Checksum.Basic
import Reflash.Error
import Reflash.Request

/-!
# Frames

A request travels as one frame: a preamble of four little-endian words, then the payload. The
preamble holds the request's number, the length of the payload, the checksum of the payload and
the checksum of the three words before it.

`Frame.decode` trusts the length only after the checksum of the preamble, so damage to the
preamble is reported as such and never as a missing payload. Bytes after the payload are ignored.
-/

namespace Reflash

/-- The words in front of a payload. -/
structure Preamble where
  /-- The number of the request. -/
  typeId : UInt32
  /-- The number of payload bytes. -/
  length : UInt32
  /-- The checksum of the payload. -/
  payloadCrc : UInt32
  /-- The checksum of the three words above. -/
  headerCrc : UInt32
  deriving DecidableEq, Repr

namespace Preamble

/-- The size of the words that the preamble's own checksum covers. -/
def coveredSize : Nat := 12

/-- The size of a preamble. -/
def size : Nat := 16

/-- The three words that the preamble's own checksum covers. -/
def covered (typeId length payloadCrc : UInt32) : Bytes :=
  Bytes.le32 typeId ++ Bytes.le32 length ++ Bytes.le32 payloadCrc

/-- The preamble on the wire. -/
def encode (p : Preamble) : Bytes :=
  covered p.typeId p.length p.payloadCrc ++ Bytes.le32 p.headerCrc

/-- Reads a preamble, whatever its checksums are. -/
def reader : Bytes.Reader Preamble := do
  let typeId ← Bytes.Reader.u32
  let length ← Bytes.Reader.u32
  let payloadCrc ← Bytes.Reader.u32
  let headerCrc ← Bytes.Reader.u32
  return { typeId, length, payloadCrc, headerCrc }

/-- A preamble always has its full size. -/
@[simp]
theorem length_encode (p : Preamble) : p.encode.length = size := rfl

end Preamble

/-- A request with its payload. -/
structure Frame extends Preamble where
  /-- The data of the request. -/
  payload : Bytes
  deriving DecidableEq, Repr

namespace Frame

/-- The frame of a request, with length and checksums computed. The length field has 32 bits, so
this is meant for payloads below 4 GiB. -/
def ofRequest (request : Request) (payload : Bytes) : Frame :=
  let length := UInt32.ofNat payload.length
  let payloadCrc := Checksum.ofBytes payload
  { typeId := request.code
    length
    payloadCrc
    headerCrc := Checksum.ofBytes (Preamble.covered request.code length payloadCrc)
    payload }

/-- The request that a frame carries, if its number is known. -/
def request? (frame : Frame) : Option Request :=
  Request.ofCode? frame.typeId

/-- The frame on the wire, exactly as its fields say. -/
def encode (frame : Frame) : Bytes :=
  frame.toPreamble.encode ++ frame.payload

/-- The frame at the start of `data`, if both its checksums are right. -/
def decode (data : Bytes) : Except Error Frame :=
  if hsize : data.length < Preamble.size then
    .error (.truncatedMessage Preamble.size data.length)
  else
    match Preamble.reader.value? data with
    | none => .error (.io .endOfData)
    | some preamble =>
      let actual := Checksum.ofBytes
        (data.slice 0 Preamble.coveredSize (Nat.zero_le _)
          (by simp only [Preamble.size, Preamble.coveredSize] at *; omega))
      if actual ≠ preamble.headerCrc then
        .error (.corruptMessage .header preamble.headerCrc actual)
      else
        let needed := Preamble.size + preamble.length.toNat
        if hneeded : data.length < needed then .error (.truncatedMessage needed data.length)
        else
          let payload := data.slice Preamble.size needed (Nat.le_add_right _ _)
            (Nat.le_of_not_lt hneeded)
          let actual := Checksum.ofBytes payload
          if actual ≠ preamble.payloadCrc then
            .error (.corruptMessage .payload preamble.payloadCrc actual)
          else .ok { toPreamble := preamble, payload }

end Frame

/-- A request with its payload on the wire. -/
def Request.encode (request : Request) (payload : Bytes) : Bytes :=
  (Frame.ofRequest request payload).encode

end Reflash
