import ServiceWiring.Document
import ServiceWiring.FileTree

/-! Saving documents as files. -/
namespace ServiceWiring

namespace Document

def pathIn (d : Document) (directory : String) : String := Path.join directory d.hintName

def directoryError (directory : String) (fault : FileFault) : Error :=
  .file ("Failed to create output directory " ++ directory) fault

def writeError (path : String) (fault : FileFault) : Error := .file ("Failed to write " ++ path) fault

end Document

/-- Writes a document under its hint name into a directory, which is made if it is missing. Yields
the path of the file. -/
def FileTree.save (t : FileTree) (directory : String) (d : Document) :
    FileTree × Except Error String :=
  let made := t.createDirectories directory
  match made.result with
  | .error fault => (made.tree, .error (Document.directoryError directory fault))
  | .ok () =>
    let path := d.pathIn directory
    let written := made.tree.writeText path d.text
    match written.result with
    | .error fault => (written.tree, .error (Document.writeError path fault))
    | .ok () => (written.tree, .ok path)

end ServiceWiring
