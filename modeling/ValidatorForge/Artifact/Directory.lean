import ValidatorForge.Artifact.Location
import ValidatorForge.Artifact.Sink

/-!
# Artifacts in a directory

Each artifact is a file below a root directory: `com.acme.Thing` is `com/acme/Thing.rs`.  The files
are kept as a tree of directories and texts, with the two ways in which it refuses a write: a part
of the path is a file, or the file itself is a directory.
-/

namespace ValidatorForge

namespace Artifact

/-- The directories and files of a file system, by the parts of their paths. -/
structure FileTree where
  directories : List (List String) := []
  files : OrderedMap (List String) String := .empty

namespace FileTree

instance : Inhabited FileTree := ⟨{}⟩

/-- Whether a directory entry may have that name. -/
def isEntryName (name : String) : Bool := name.utf8ByteSize ≤ 255 && !name.toList.contains '\x00'

/-- Makes the directories on the way from `above` through `parts`.  Directories made before a
failure stay. -/
def makeBelow (above : List String) : List String → FileTree → Bool × FileTree
  | [], t => (true, t)
  | ".." :: rest, t => makeBelow above.dropLast rest t
  | part :: rest, t =>
    let here := above ++ [part]
    if t.files.contains here || !isEntryName part then (false, t)
    else if here ∈ t.directories then makeBelow here rest t
    else makeBelow here rest { t with directories := t.directories ++ [here] }

/-- The parts of a path after going up for each `..`. -/
def resolve (parts : List String) : List String :=
  parts.foldl (fun above part => if part = ".." then above.dropLast else above ++ [part]) []

/-- Makes a directory and all above it. -/
def makeDirectories (t : FileTree) (l : Location) : Bool × FileTree := makeBelow [] l.parts t

/-- Writes a file whose directory exists. -/
def write (t : FileTree) (l : Location) (text : String) : Bool × FileTree :=
  let here := resolve l.parts
  if here ∈ t.directories || !(l.parts.all isEntryName) then (false, t)
  else (true, { t with files := t.files.insert here text })

/-- The text of a file. -/
def read? (t : FileTree) (l : Location) : Option String := t.files.get? (resolve l.parts)

end FileTree

end Artifact

open Artifact

/-- Writes each artifact to a file below a root directory. -/
structure DirArtifacts where
  root : Location
  claims : Claims := {}
  /-- The files written, in commit order. -/
  written : List Location := []
  tree : FileTree := {}

namespace DirArtifacts

instance : Inhabited DirArtifacts := ⟨{ root := ⟨""⟩ }⟩

/-- The file of an artifact. -/
def pathFor (root : Location) (package name : String) : Location :=
  let parts := (Text.fields '.' package.toList).filter (!·.isEmpty)
  (parts.foldl (fun l part => l.push (String.ofList part)) root).push s!"{name}.rs"

/-- Makes the directory of the file, then writes it. -/
def store (d : DirArtifacts) (w : ArtifactWriter) : Except GenerateError Unit × DirArtifacts :=
  let file := pathFor d.root w.package w.name
  match d.tree.makeDirectories file.parent with
  | (false, tree) => (.error (.unwritable (file.parent.relativeTo d.root)), { d with tree })
  | (true, tree) =>
    match tree.write file w.source with
    | (false, tree) => (.error (.unwritable (file.relativeTo d.root)), { d with tree })
    | (true, tree) => (.ok (), { d with tree, written := d.written ++ [file] })

instance : ArtifactSink DirArtifacts where
  claim d package name :=
    (d.claims.open? package name).map fun (w, claims) => (w, { d with claims })
  commit := store

end DirArtifacts

end ValidatorForge
