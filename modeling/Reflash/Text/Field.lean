import Reflash.Text.Utf8

/-!
# Text in fields of fixed width

A field of fixed width holds a text that ends at the first zero byte, or fills the whole field if
there is none. What follows the zero byte is not looked at.
-/

namespace Reflash.Text

/-- The text that a field of fixed width holds. -/
def ofField (field : Bytes) : String :=
  Utf8.decode (field.takeWhile (· ≠ 0))

end Reflash.Text
