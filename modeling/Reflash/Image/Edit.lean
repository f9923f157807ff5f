import Reflash.Image.Basic

/-!
# Changing images

An edit changes the bytes of an image in one place. What comes out need not be an image any more:
a cut may have taken away the header region.
-/

namespace Reflash.Image

/-- One change to the bytes of an image. -/
inductive Edit where
  /-- Keep only so many bytes. -/
  | truncate (length : Nat)
  /-- Flip the bits of `mask` in one byte. -/
  | flip (offset : Nat) (mask : UInt8)
  /-- Put further bytes at the end. -/
  | append (bytes : Bytes)
  deriving DecidableEq, Repr

/-- The bytes after an edit. -/
def Edit.apply : Edit → Bytes → Bytes
  | .truncate length, bytes => bytes.take length
  | .flip offset mask, bytes => bytes.flip offset mask
  | .append more, bytes => bytes ++ more

/-- The image after an edit. -/
def edit (image : Image) (change : Edit) : Except Error Image :=
  ofBytes (change.apply image.bytes)

end Reflash.Image
