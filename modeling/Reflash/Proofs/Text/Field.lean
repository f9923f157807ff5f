import Reflash.Proofs.Text.Utf8
import Reflash.Text.Field

/-!
# Texts in fields

A text is put into a field of fixed width by its UTF-8 form. If the field is wider, a zero byte ends
the text, and what is behind the zero byte is anybody's. `Holds` says that a field was filled in this
way; the text is then read from it (`ofField_of_holds`), so a field holds at most one text.
-/

namespace Reflash.Text

open Utf8

/-- The field holds the text, which has no zero character: the text takes the whole field, or a zero
byte ends it. -/
inductive Holds (text : String) : Bytes → Prop where
  | full : '\x00' ∉ text.toList → Holds text (encode text)
  | ended (junk) : '\x00' ∉ text.toList → Holds text (encode text ++ 0 :: junk)

/-- Up to the first zero byte there is nothing but the text. -/
theorem takeWhile_encode_append {text : String} (h : '\x00' ∉ text.toList) (rest : Bytes) :
    (encode text ++ rest).takeWhile (· ≠ 0) = encode text ++ rest.takeWhile (· ≠ 0) := by
  apply List.takeWhile_append_of_pos
  intro byte hbyte
  refine decide_eq_true fun hzero => zero_not_mem_encode h ?_
  rwa [← hzero]

/-- The text that a field holds is read from it. -/
theorem ofField_of_holds {text : String} {field : Bytes} (h : Holds text field) :
    ofField field = text := by
  unfold ofField
  cases h with
  | full htext =>
      have hwhole := takeWhile_encode_append htext []
      rw [List.append_nil, List.takeWhile_nil, List.append_nil] at hwhole
      rw [hwhole, decode_encode]
  | ended junk htext =>
      rw [takeWhile_encode_append htext, List.takeWhile_cons_of_neg (by simp), List.append_nil,
        decode_encode]

/-- A text without zero characters that is not too long can be put into a field, and what is left of
the field is free. -/
theorem exists_holds {text : String} {width : Nat} (htext : '\x00' ∉ text.toList)
    (hwidth : (encode text).length ≤ width) :
    ∃ field, Holds text field ∧ field.length = width := by
  rcases Nat.eq_or_lt_of_le hwidth with hfull | hshort
  · exact ⟨_, .full htext, hfull⟩
  · refine ⟨_, .ended (List.replicate (width - (encode text).length - 1) 0) htext, ?_⟩
    rw [List.length_append, List.length_cons, List.length_replicate]
    omega

end Reflash.Text
