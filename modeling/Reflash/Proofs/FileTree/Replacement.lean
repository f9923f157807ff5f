import Mathlib.Data.List.Basic
import Reflash.FileTree

/-!
# Replacing the content of a file

Putting new content into a regular file changes the entry of that file and no other
(`find?_insert_of_ne`). The tree keeps its shape: the same names stand for directories, and the same
names stand for something (`SameShape`). Paths are followed by the shape alone, so every path leads
where it led before (`SameShape.resolve_eq`, `replaced_insert`).
-/

namespace Reflash.FileTree

variable {tree other : FileTree} {names others : List String} {path : String}

/-! ## Entries -/

/-- Taking out one entry is nothing to the others. -/
theorem lookup_filter_of_ne (entries : List (List String × Entry)) (h : others ≠ names) :
    (entries.filter (·.1 ≠ names)).lookup others = entries.lookup others := by
  induction entries with
  | nil => rfl
  | cons first rest ih =>
      obtain ⟨key, entry⟩ := first
      by_cases hkey : key = names
      · have hother : (others == key) = false := by
          rw [hkey]
          exact beq_false_of_ne h
        rw [List.filter_cons_of_neg (by simpa using hkey), ih, List.lookup_cons, hother]
      · rw [List.filter_cons_of_pos (by simpa using hkey), List.lookup_cons, List.lookup_cons, ih]

/-- An entry that is put in is there. -/
theorem find?_insert_self (tree : FileTree) (entry : Entry) (h : names ≠ []) :
    (tree.insert names entry).find? names = some entry := by
  cases names with
  | nil => exact absurd rfl h
  | cons first rest => exact List.lookup_cons_self

/-- The other entries stay. -/
theorem find?_insert_of_ne (tree : FileTree) (entry : Entry) (h : others ≠ names) :
    (tree.insert names entry).find? others = tree.find? others := by
  cases others with
  | nil => rfl
  | cons first rest =>
      show ((names, entry) :: tree.entries.filter (·.1 ≠ names)).lookup (first :: rest) = _
      rw [List.lookup_cons, beq_false_of_ne h]
      exact lookup_filter_of_ne tree.entries h

/-- Of two entries under the same names the later one stays. -/
theorem insert_insert (tree : FileTree) (names : List String) (first second : Entry) :
    (tree.insert names first).insert names second = tree.insert names second := by
  unfold insert
  dsimp only
  rw [List.filter_cons_of_neg (by simp), List.filter_filter]
  simp only [Bool.and_self]

/-- The root is not a regular file. -/
theorem ne_nil_of_file {content : Bytes} (h : tree.find? names = some (.file content)) :
    names ≠ [] := by
  rintro rfl
  cases h

/-! ## The shape of a tree -/

/-- The same names stand for directories in both trees, the same names stand for something, and the
working directory is the same. -/
structure SameShape (tree other : FileTree) : Prop where
  workingDirectory_eq : other.workingDirectory = tree.workingDirectory
  isDirectory_eq : ∀ names, other.isDirectory names = tree.isDirectory names
  isSome_eq : ∀ names, (other.find? names).isSome = (tree.find? names).isSome

/-- New content for a regular file leaves the shape as it is. -/
theorem sameShape_insert {content : Bytes} (h : tree.find? names = some (.file content))
    (replacement : Bytes) : SameShape tree (tree.insert names (.file replacement)) where
  workingDirectory_eq := rfl
  isDirectory_eq others := by
    unfold isDirectory
    by_cases hothers : others = names
    · rw [hothers, find?_insert_self tree _ (ne_nil_of_file h), h]
      rfl
    · rw [find?_insert_of_ne tree _ hothers]
  isSome_eq others := by
    by_cases hothers : others = names
    · rw [hothers, find?_insert_self tree _ (ne_nil_of_file h), h]
      rfl
    · rw [find?_insert_of_ne tree _ hothers]

namespace SameShape

variable (h : SameShape tree other)
include h

/-- A single name leads to the same place in trees of one shape. -/
theorem follow_eq (place : List String) (name : String) :
    other.follow place name = tree.follow place name := by
  have hfound := h.isSome_eq (place ++ [name])
  unfold follow
  rw [h.isDirectory_eq]
  -- only the last look-up reads an entry, and only whether there is one
  cases hother : other.find? (place ++ [name]) with
  | none =>
      rw [hother, Option.isSome_none, Eq.comm, Option.isSome_eq_false_iff,
        Option.isNone_iff_eq_none] at hfound
      rw [hfound]
  | some _ =>
      rw [hother, Option.isSome_some, Eq.comm, Option.isSome_iff_exists] at hfound
      obtain ⟨_, hentry⟩ := hfound
      rw [hentry]

/-- So do several names, one after the other. -/
theorem followAll_eq (place names : List String) :
    other.followAll place names = tree.followAll place names := by
  induction names generalizing place with
  | nil => rfl
  | cons name rest ih =>
      unfold followAll
      rw [h.follow_eq]
      cases tree.follow place name with
      | error fault => rfl
      | ok next => exact ih next

/-- Every path leads where it leads in the other tree. -/
theorem resolve_eq (path : String) : other.resolve path = tree.resolve path := by
  have horigin : other.origin path = tree.origin path := by
    unfold origin
    rw [h.workingDirectory_eq]
  unfold resolve
  rw [horigin]
  cases tree.origin path with
  | error fault => rfl
  | ok start => exact h.followAll_eq start.1 start.2

end SameShape

/-! ## Files at the end of a path -/

/-- The path leads to a regular file under these names, with this content. -/
structure LeadsToFile (tree : FileTree) (path : String) (names : List String) (content : Bytes) :
    Prop where
  resolve_eq : tree.resolve path = .ok names
  find_eq : tree.find? names = some (.file content)

variable {content : Bytes}

/-- A file can be opened exactly if the path leads to it. -/
theorem open?_eq_ok_iff :
    tree.open? path = .ok (names, content) ↔ LeadsToFile tree path names content := by
  unfold open?
  constructor
  · intro h
    cases hresolve : tree.resolve path with
    | error fault =>
        rw [hresolve] at h
        cases h
    | ok place =>
        rw [hresolve] at h
        dsimp only at h
        split at h
        · next found hentry =>
            cases h
            exact ⟨hresolve, hentry⟩
        · cases h
  · rintro ⟨hresolve, hentry⟩
    rw [hresolve]
    dsimp only
    rw [hentry]

/-- A path that leads to a regular file can be read. -/
theorem LeadsToFile.read_eq (h : LeadsToFile tree path names content) :
    tree.read path = .ok content := by
  unfold read
  rw [open?_eq_ok_iff.mpr h]
  rfl

/-- A path that leads to none cannot. -/
theorem exists_read_eq_error (h : ∀ names content, ¬ LeadsToFile tree path names content) :
    ∃ fault, tree.read path = .error fault := by
  unfold read
  cases hopen : tree.open? path with
  | error fault => exact ⟨fault, rfl⟩
  | ok found => exact absurd (open?_eq_ok_iff.mp hopen) (h found.1 found.2)

/-- Overwriting replaces the content of the file at the end of the path. -/
theorem LeadsToFile.writeAt_eq (h : LeadsToFile tree path names content) (offset : Nat)
    (patch : Bytes) :
    tree.writeAt path offset patch =
      .ok (tree.insert names (.file (content.overwrite offset patch))) := by
  unfold writeAt
  rw [open?_eq_ok_iff.mpr h]
  rfl

/-- One tree is the other with the given content in one file: no other entry differs, and every path
leads to the same place. -/
structure Replaced (tree after : FileTree) (names : List String) (content : Bytes) : Prop where
  find_eq : after.find? names = some (.file content)
  others_eq : ∀ others, others ≠ names → after.find? others = tree.find? others
  workingDirectory_eq : after.workingDirectory = tree.workingDirectory
  resolve_eq : ∀ path, after.resolve path = tree.resolve path

/-- Inserting a file in the place of another one replaces its content and nothing else. -/
theorem replaced_insert (h : tree.find? names = some (.file content)) (replacement : Bytes) :
    Replaced tree (tree.insert names (.file replacement)) names replacement where
  find_eq := find?_insert_self tree _ (ne_nil_of_file h)
  others_eq _ := find?_insert_of_ne tree _
  workingDirectory_eq := rfl
  resolve_eq := (sameShape_insert h replacement).resolve_eq

/-- Afterwards the path leads to the same file, with the new content. -/
theorem Replaced.leadsToFile {after : FileTree} {replacement : Bytes}
    (h : Replaced tree after names replacement) (hfile : LeadsToFile tree path names content) :
    LeadsToFile after path names replacement where
  resolve_eq := (h.resolve_eq path).trans hfile.resolve_eq
  find_eq := h.find_eq

end Reflash.FileTree
