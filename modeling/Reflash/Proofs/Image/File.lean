import Reflash.Image.File
import Reflash.Proofs.FileTree.Replacement
import Reflash.Proofs.Image.Stamping

/-!
# Stamping images in files

Reading a whole file, working out its stamp and writing the stamp back over eight of its bytes is
the same as stamping the content in memory (`stampFile_of_region`). Everything that can be refused is
refused before anything is written, so a refusal leaves every file as it was
(`stampFile_of_short`, `stampFile_of_unreadable`). `stampFile_stamps_or_refuses` puts this together:
for every path exactly one of the three holds.
-/

namespace Reflash.Image

open FileTree

variable {tree : FileTree} {path : String} {names : List String} {content : Bytes}

/-- The record of a stamped file. -/
def stampedRecord (path : String) (stamp : Stamp) : Log.Record :=
  ⟨.debug, "Stamped " ++ path ++ ": size " ++ toString stamp.size ++
    ", crc " ++ Text.Hex.word stamp.crc⟩

/-- An image in a file is stamped where it lies. -/
theorem stampFile_of_region (hfile : LeadsToFile tree path names content)
    (hregion : regionSize ≤ content.length) :
    let image : Image := ⟨content, hregion⟩
    stampFile tree path = (.ok image.expectedStamp, tree.insert names (.file image.stamp.bytes),
      [stampedRecord path image.expectedStamp]) := by
  intro image
  have hstamp : content.imageStamp = .ok image.expectedStamp := image.agrees_bytes.imageStamp_eq
  have hwrite := hfile.writeAt_eq crcOffset image.expectedStamp.encode
  unfold stampFile
  simp only [hfile.read_eq, hstamp, hwrite]
  rfl

/-- A file that is too short for a header region is refused, and nothing is written. -/
theorem stampFile_of_short (hfile : LeadsToFile tree path names content)
    (hshort : content.length < regionSize) :
    stampFile tree path =
      (.error (.invalidImage (.short content.length regionSize)), tree, []) := by
  unfold stampFile
  simp only [hfile.read_eq, (refused_of_lt hshort).imageStamp_eq]

/-- What cannot be read is refused, and nothing is written. -/
theorem stampFile_of_unreadable {fault : FileFault} (h : tree.read path = .error fault) :
    stampFile tree path = (.error (.io fault), tree, []) := by
  unfold stampFile
  simp only [h]

/-- The image in a file is loaded as it is. -/
theorem load_of_region (hfile : LeadsToFile tree path names content)
    (hregion : regionSize ≤ content.length) :
    (load tree path).1 = .ok ⟨content, hregion⟩ := by
  unfold load
  simp only [hfile.read_eq, ofBytes_of_le hregion]

/-- Stamping a file is stamping its content. If the path leads to a file with a header region, the
stamp of its content is given, the content becomes the stamped content, of which only the eight
bytes of the stamp are new, and nothing else in the tree changes. The file can then be loaded and
passes the check, and stamping it again gives the same and changes nothing. If the file is too short,
or the path leads to no file, the request is refused and the tree stays as it was. -/
theorem stampFile_stamps_or_refuses (tree : FileTree) (path : String) :
    (∀ names content, LeadsToFile tree path names content → regionSize ≤ content.length →
      ∃ stamp stamped after log,
        content.imageStamp = .ok stamp ∧ content.stamped = .ok stamped ∧
        stamped.length = content.length ∧ stamped.take crcOffset = content.take crcOffset ∧
        stamped.drop regionSize = content.drop regionSize ∧
        stampFile tree path = (.ok stamp, after, log) ∧ Replaced tree after names stamped ∧
        (∃ image, (load after path).1 = .ok image ∧ image.bytes = stamped ∧
          image.verify = .ok ()) ∧
        stampFile after path = (.ok stamp, after, log)) ∧
    (∀ names content, LeadsToFile tree path names content → content.length < regionSize →
      stampFile tree path =
        (.error (.invalidImage (.short content.length regionSize)), tree, [])) ∧
    ((∀ names content, ¬ LeadsToFile tree path names content) →
      ∃ fault, tree.read path = .error fault ∧
        stampFile tree path = (.error (.io fault), tree, [])) := by
  refine ⟨?_, fun names content => stampFile_of_short, ?_⟩
  · intro names content hfile hregion
    let image : Image := ⟨content, hregion⟩
    have hstamps := image.stamps_bytes
    have hreplaced := replaced_insert hfile.find_eq image.stamp.bytes
    have hafter := hreplaced.leadsToFile hfile
    have hagain := stampFile_of_region hafter image.stamp.region_le
    dsimp only at hagain
    rw [expectedStamp_stamp, stamp_stamp, insert_insert] at hagain
    exact ⟨image.expectedStamp, image.stamp.bytes, tree.insert names (.file image.stamp.bytes),
      [stampedRecord path image.expectedStamp], hstamps.imageStamp_eq, hstamps.stamped_eq,
      hstamps.length_eq, hstamps.take_eq, hstamps.drop_eq, stampFile_of_region hfile hregion,
      hreplaced, ⟨image.stamp, load_of_region hafter image.stamp.region_le, rfl, verify_stamp image⟩,
      hagain⟩
  · intro hnone
    obtain ⟨fault, hfault⟩ := exists_read_eq_error hnone
    exact ⟨fault, hfault, stampFile_of_unreadable hfault⟩

/-- A directory with an image of two bytes of payload and a file that is too short. -/
def workshop : FileTree where
  entries := [(["a"], .directory), (["a", "app.bin"], .file (List.replicate 14 7)),
    (["a", "stub"], .file [1, 2, 3])]
  workingDirectory := ["a"]

/-- The image is stamped, by whatever path, and the stub and what is not there are refused. -/
theorem stampFile_stamps_or_refuses_workshop :
    (∃ stamp after log, stampFile workshop "./app.bin" = (.ok stamp, after, log) ∧
      after.find? ["a", "stub"] = some (.file [1, 2, 3]) ∧
      stampFile after "./app.bin" = (.ok stamp, after, log)) ∧
    stampFile workshop "../a/stub" = (.error (.invalidImage (.short 3 12)), workshop, []) ∧
    ∃ fault, stampFile workshop "app.hex" = (.error (.io fault), workshop, []) := by
  refine ⟨?_, ?_, ?_⟩
  · obtain ⟨stamp, _, after, log, _, _, _, _, _, hstamped, hreplaced, _, hagain⟩ :=
      (stampFile_stamps_or_refuses workshop "./app.bin").1 ["a", "app.bin"] (List.replicate 14 7)
        ⟨rfl, rfl⟩ (by decide)
    exact ⟨stamp, after, log, hstamped, hreplaced.others_eq ["a", "stub"] (by decide), hagain⟩
  · exact (stampFile_stamps_or_refuses workshop "../a/stub").2.1 ["a", "stub"] [1, 2, 3] ⟨rfl, rfl⟩
      (by decide)
  · have hmissing : workshop.resolve "app.hex" = .error .notFound := rfl
    obtain ⟨fault, _, hrefused⟩ := (stampFile_stamps_or_refuses workshop "app.hex").2.2
      fun names content hfile => by cases hmissing.symm.trans hfile.resolve_eq
    exact ⟨fault, hrefused⟩

end Reflash.Image
