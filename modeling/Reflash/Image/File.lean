import Reflash.FileTree
import Reflash.Image.Basic
import Reflash.Log

/-!
# Images in files

Images are loaded from files and stamped where they lie. Stamping rewrites the eight bytes of the
stamp and nothing else, and only after the whole file has been read and found to be an image, so
a refusal leaves every file as it was.
-/

namespace Reflash.Image

/-- Loads the image in a file. -/
def load (tree : FileTree) (path : String) : Except Error Image × List Log.Record :=
  let log : List Log.Record := [⟨.debug, "Loading image from: " ++ path⟩]
  match tree.read path with
  | .error fault => (.error (.io fault), log)
  | .ok bytes => (ofBytes bytes, log)

/-- Stamps the image in a file: the stamp that was written, the files afterwards, and the
records made. -/
def stampFile (tree : FileTree) (path : String) :
    Except Error Stamp × FileTree × List Log.Record :=
  match tree.read path with
  | .error fault => (.error (.io fault), tree, [])
  | .ok bytes =>
    match bytes.imageStamp with
    | .error e => (.error e, tree, [])
    | .ok stamp =>
      match tree.writeAt path crcOffset stamp.encode with
      | .error fault => (.error (.io fault), tree, [])
      | .ok tree =>
        (.ok stamp, tree, [⟨.debug, "Stamped " ++ path ++ ": size " ++ toString stamp.size ++
          ", crc " ++ Text.Hex.word stamp.crc⟩])

end Reflash.Image
