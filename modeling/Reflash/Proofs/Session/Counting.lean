import Mathlib.Order.Bounds.Basic
import Reflash.Proofs.Session.Verdict

/-!
# Counting in machine words

Lengths and counts are natural numbers here; a machine keeps them in words of 64 bits, which can
overflow. `Word.add?` and `Word.divCeil?` give nothing where the result does not fit, so that a count
made with them is exact or not there at all.

Rounding up needs no more room than there is: the number of pages can be counted in a word for every
length that a word can hold (`exists_pageCountByWord`), and while the pages go out one by one neither
the pages nor their bytes overflow (`Counters.exists_after`).
-/

namespace Reflash

/-- What is enough, but with one time less would not be, is the least that is enough. -/
theorem isLeast_of_lt_add {length size count : Nat} (henough : length ≤ size * count)
    (hless : size * count < length + size) : IsLeast {n | length ≤ size * n} count := by
  refine ⟨henough, fun n hn => Nat.le_of_not_lt fun hlt => ?_⟩
  have hn : length ≤ size * n := hn
  have hmul : size * (n + 1) ≤ size * count := Nat.mul_le_mul_left size hlt
  rw [Nat.mul_succ] at hmul
  omega

namespace Word

variable {a b : UInt64}

/-- The sum of two words, if a word can hold it. -/
def add? (a b : UInt64) : Option UInt64 :=
  if a.toNat + b.toNat < UInt64.size then some (a + b) else none

/-- The quotient of two words, rounded up: the plain quotient, and one more if something is left. -/
def divCeil? (a b : UInt64) : Option UInt64 :=
  if b = 0 then none
  else if 0 < a % b then add? (a / b) 1
  else some (a / b)

/-- A sum that fits is exact. -/
theorem exists_add (h : a.toNat + b.toNat < UInt64.size) :
    ∃ sum, add? a b = some sum ∧ sum.toNat = a.toNat + b.toNat := by
  refine ⟨a + b, if_pos h, ?_⟩
  rw [UInt64.toNat_add]
  exact Nat.mod_eq_of_lt h

/-- Rounding up comes to the least number of times that is enough, and never overflows: something is
left only if the quotient is smaller than what was divided. -/
theorem exists_divCeil (hb : b ≠ 0) :
    ∃ count, divCeil? a b = some count ∧ IsLeast {n | a.toNat ≤ b.toNat * n} count.toNat := by
  have hpos : 0 < b.toNat := Nat.pos_of_ne_zero fun h => hb (UInt64.toNat_inj.mp h)
  have hsplit := Nat.div_add_mod a.toNat b.toNat
  have hmod := Nat.mod_lt a.toNat hpos
  rw [← UInt64.toNat_div] at hsplit
  unfold divCeil?
  rw [if_neg hb]
  split
  · next hrest =>
    rw [UInt64.lt_iff_toNat_lt, UInt64.toNat_zero, UInt64.toNat_mod] at hrest
    have hquotient : (a / b).toNat < a.toNat := by
      have hle := Nat.le_mul_of_pos_left (a / b).toNat hpos
      omega
    obtain ⟨count, hcount, hexact⟩ :=
      exists_add (b := 1) (Nat.lt_of_le_of_lt hquotient a.toNat_lt_size)
    rw [UInt64.toNat_one] at hexact
    refine ⟨count, hcount, isLeast_of_lt_add ?_ ?_⟩
    · rw [hexact, Nat.mul_succ]
      omega
    · rw [hexact, Nat.mul_succ]
      omega
  · next hrest =>
    rw [UInt64.lt_iff_toNat_lt, UInt64.toNat_zero, UInt64.toNat_mod] at hrest
    exact ⟨a / b, rfl, isLeast_of_lt_add (by omega) (by omega)⟩

end Word

/-! ## Counting pages -/

/-- So many pages are enough for so many bytes, and fewer are not. -/
theorem isLeast_pageCount (length : Nat) :
    IsLeast {n | length ≤ pageSize * n} (pageCount length) := by
  refine isLeast_of_lt_add ?_ ?_
  · simp only [pageCount, pageSize]
    omega
  · simp only [pageCount, pageSize]
    omega

/-- There are never more pages than bytes. -/
theorem pageCount_le (length : Nat) : pageCount length ≤ length := by
  simp only [pageCount, pageSize]
  omega

/-- The number of pages that so many bytes need, counted in words. -/
def pageCountByWord (length : UInt64) : Option UInt64 :=
  Word.divCeil? length (UInt64.ofNat pageSize)

/-- Pages can be counted in words, up to the greatest length that there is. -/
theorem exists_pageCountByWord (length : UInt64) :
    ∃ count, pageCountByWord length = some count ∧ count.toNat = pageCount length.toNat := by
  obtain ⟨count, hcount, hleast⟩ :=
    Word.exists_divCeil (a := length) (b := UInt64.ofNat pageSize) (by decide)
  exact ⟨count, hcount, hleast.unique (isLeast_pageCount length.toNat)⟩

-- Rounding up by adding first would not do: the sum overflows.
example : Word.add? 0xFFFFFFFFFFFFFFFF (UInt64.ofNat (pageSize - 1)) = none := by decide

/-! ## Counting what is sent -/

/-- Counting the first `count` pages leads to the progress of an upgrade that has sent them. -/
theorem Progress.advanceAll_take {payload : Bytes} {count : Nat}
    (h : count ≤ pageCount payload.length) :
    (Progress.start (pageCount payload.length)).advanceAll ((pages payload).take count) =
      .upTo payload count := by
  rw [Progress.advanceAll_start (List.take_prefix _ _), length_take_pages h]

/-- The progress of an upgrade, counted in words. -/
structure Counters where
  /-- The pages that the transport has taken. -/
  pagesSent : UInt64
  /-- The pages of the whole payload. -/
  totalPages : UInt64
  /-- The payload bytes in the pages sent. -/
  bytesSent : UInt64

namespace Counters

/-- What the counters show. -/
def progress (c : Counters) : Progress where
  pagesSent := c.pagesSent.toNat
  totalPages := c.totalPages.toNat
  bytesSent := c.bytesSent.toNat

/-- The counters at the start of an upgrade. -/
def start (totalPages : UInt64) : Counters := { pagesSent := 0, totalPages, bytesSent := 0 }

/-- The counters once one more page is sent, unless one of them overflows. -/
def advance? (c : Counters) (page : Bytes) : Option Counters := do
  let pagesSent ← Word.add? c.pagesSent 1
  let bytesSent ← Word.add? c.bytesSent (UInt64.ofNat page.length)
  return { c with pagesSent, bytesSent }

/-- The counters of an upgrade once its first `count` pages are sent one after the other, unless
something overflows on the way. -/
def after? (payload : Bytes) (count : Nat) : Option Counters := do
  let totalPages ← pageCountByWord (UInt64.ofNat payload.length)
  ((pages payload).take count).foldlM advance? (start totalPages)

/-- While there is room, counting one more page is exact. -/
theorem exists_advance (c : Counters) (page : Bytes)
    (hpages : c.pagesSent.toNat + 1 < UInt64.size)
    (hbytes : c.bytesSent.toNat + page.length < UInt64.size) :
    ∃ next, c.advance? page = some next ∧ next.progress = c.progress.advance page.length := by
  have hsize : (UInt64.ofNat page.length).toNat = page.length :=
    UInt64.toNat_ofNat_of_lt' (by omega)
  rw [← hsize] at hbytes
  obtain ⟨pagesSent, hpagesSent, hpages⟩ := Word.exists_add (b := 1) hpages
  obtain ⟨bytesSent, hbytesSent, hbytes⟩ := Word.exists_add hbytes
  refine ⟨{ c with pagesSent, bytesSent }, ?_, ?_⟩
  · unfold advance?
    rw [hpagesSent, hbytesSent]
    rfl
  · rw [hsize] at hbytes
    unfold progress Progress.advance
    rw [hpages, hbytes]
    rfl

/-- While there is room for all of them, counting further pages is exact. -/
theorem exists_foldlM_advance (c : Counters) (further : List Bytes)
    (hpages : c.pagesSent.toNat + further.length < UInt64.size)
    (hbytes : c.bytesSent.toNat + further.flatten.length < UInt64.size) :
    ∃ last, further.foldlM advance? c = some last ∧
      last.progress = c.progress.advanceAll further := by
  induction further generalizing c with
  | nil => exact ⟨c, rfl, rfl⟩
  | cons page rest ih =>
      rw [List.length_cons] at hpages
      rw [List.flatten_cons, List.length_append] at hbytes
      obtain ⟨next, hnext, hprogress⟩ := exists_advance c page (by omega) (by omega)
      have hsent : next.pagesSent.toNat = c.pagesSent.toNat + 1 :=
        congrArg Progress.pagesSent hprogress
      have hsize : next.bytesSent.toNat = c.bytesSent.toNat + page.length :=
        congrArg Progress.bytesSent hprogress
      obtain ⟨last, hlast, hall⟩ := ih next (by omega) (by omega)
      refine ⟨last, ?_, ?_⟩
      · rw [List.foldlM_cons, hnext]
        exact hlast
      · rw [hall, hprogress, Progress.advanceAll_cons]

/-- No counter of an upgrade overflows, however long the payload is, and after any number of pages the
counters show how far the upgrade has come. -/
theorem exists_after {payload : Bytes} (hlength : payload.length < UInt64.size) {count : Nat}
    (hcount : count ≤ pageCount payload.length) :
    ∃ counters, after? payload count = some counters ∧ counters.progress = .upTo payload count := by
  have hword : (UInt64.ofNat payload.length).toNat = payload.length :=
    UInt64.toNat_ofNat_of_lt' hlength
  obtain ⟨totalPages, htotal, hexact⟩ := exists_pageCountByWord (UInt64.ofNat payload.length)
  rw [hword] at hexact
  let sent := (pages payload).take count
  -- neither counter passes the length of the payload, which fits a word
  have hpages : 0 + sent.length < UInt64.size := by
    have hnumber : sent.length = count := length_take_pages hcount
    have hle := pageCount_le payload.length
    omega
  have hbytes : 0 + sent.flatten.length < UInt64.size := by
    have hall : sent.flatten.length = min (pageSize * sent.length) payload.length :=
      length_flatten_of_prefix (List.take_prefix _ _)
    omega
  obtain ⟨last, hlast, hprogress⟩ := exists_foldlM_advance (start totalPages) sent hpages hbytes
  refine ⟨last, ?_, ?_⟩
  · unfold after?
    rw [htotal]
    exact hlast
  · have hstart : (start totalPages).progress = .start (pageCount payload.length) := by
      rw [← hexact]
      rfl
    rw [hprogress, hstart, Progress.advanceAll_take hcount]

end Counters

end Reflash
