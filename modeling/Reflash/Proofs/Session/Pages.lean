import Reflash.Proofs.Bytes.Blocks
import Reflash.Session.Progress

/-!
# Pages

Page number `i` of a payload is the window of 1024 bytes at offset `1024 * i`. There are as many
pages as the payload needs: all but the last are full, and the last is neither empty nor filled up.
-/

namespace Reflash

/-- The page with a given number: at most 1024 bytes, from offset `1024 * number` on. -/
def page (payload : Bytes) (number : Nat) : Bytes :=
  (payload.drop (pageSize * number)).take pageSize

/-- The pages are those with the numbers from zero up. -/
theorem pages_eq_map_range (payload : Bytes) :
    pages payload = (List.range (pageCount payload.length)).map (page payload) :=
  Bytes.blocks_eq_map_range (by decide) payload

/-- An empty payload has no pages. -/
theorem pages_nil : pages [] = [] :=
  Bytes.blocks_nil (by decide)

/-- The pages one after the other are the payload. -/
theorem flatten_pages (payload : Bytes) : (pages payload).flatten = payload :=
  Bytes.flatten_blocks (by decide) payload

/-- There are as many pages as are counted. -/
theorem length_pages (payload : Bytes) : (pages payload).length = pageCount payload.length := by
  rw [pages_eq_map_range, List.length_map, List.length_range]

/-- There are first pages in any number up to that of all pages. -/
theorem length_take_pages {payload : Bytes} {count : Nat} (h : count ≤ pageCount payload.length) :
    ((pages payload).take count).length = count := by
  rw [List.length_take, length_pages, Nat.min_eq_left h]

/-- The first pages hold as many bytes as fill them, or all that there are. -/
theorem length_flatten_of_prefix {payload : Bytes} {sent : List Bytes}
    (h : sent <+: pages payload) :
    sent.flatten.length = min (pageSize * sent.length) payload.length := by
  rw [List.prefix_iff_eq_take.mp h, pages, Bytes.flatten_take_blocks, List.length_take,
    ← pages, ← List.prefix_iff_eq_take.mp h]

/-- A page is full unless the payload ends in it. -/
theorem length_page (payload : Bytes) (number : Nat) :
    (page payload number).length = min pageSize (payload.length - pageSize * number) := by
  unfold page
  rw [List.length_take, List.length_drop]

/-- No page is longer than a full one. -/
theorem length_page_le (payload : Bytes) (number : Nat) :
    (page payload number).length ≤ pageSize := by
  rw [length_page]
  exact Nat.min_le_left _ _

/-- So none of the pages of a payload is. -/
theorem length_le_of_mem_pages {payload data : Bytes} (h : data ∈ pages payload) :
    data.length ≤ pageSize := by
  rw [pages_eq_map_range, List.mem_map] at h
  obtain ⟨number, _, rfl⟩ := h
  exact length_page_le payload number

/-- No page is empty. -/
theorem length_page_pos {payload : Bytes} {number : Nat}
    (h : number < pageCount payload.length) : 0 < (page payload number).length := by
  rw [length_page]
  simp only [pageCount, pageSize] at *
  omega

/-- Only the last page may be shorter than the others. -/
theorem length_page_of_succ_lt {payload : Bytes} {number : Nat}
    (h : number + 1 < pageCount payload.length) :
    (page payload number).length = pageSize := by
  rw [length_page]
  simp only [pageCount, pageSize] at *
  omega

/-- All pages but the last are full. -/
theorem length_eq_of_mem_dropLast_pages {payload data : Bytes} (h : data ∈ (pages payload).dropLast) :
    data.length = pageSize := by
  rw [pages_eq_map_range, ← List.map_dropLast, List.dropLast_eq_take, List.take_range,
    List.length_range, List.mem_map] at h
  obtain ⟨number, hnumber, rfl⟩ := h
  refine length_page_of_succ_lt ?_
  rw [List.mem_range] at hnumber
  omega

end Reflash
