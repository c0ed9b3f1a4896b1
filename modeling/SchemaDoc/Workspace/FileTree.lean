import SchemaDoc.Text.Quoted
import SchemaDoc.Workspace.Path

/-!
# The files of a workspace

A workspace holds directories and files with their content. Going along a path asks every part
but the last to be a directory that is there. A failure says which path it was about.
-/
namespace SchemaDoc.Workspace

open Text (Bytes)

/-- Why the file system refuses an operation. -/
inductive SystemFault where
  | notFound
  | busy
  | exists
  | notDirectory
  | isDirectory
  | nameTooLong
  /-- A path has a null character. Such a path is not even handed to the file system. -/
  | nullCharacter
  deriving DecidableEq, Repr

/-- The number of a fault, if the file system found it. -/
def SystemFault.code? : SystemFault → Option Nat
  | .notFound => some 2
  | .busy => some 16
  | .exists => some 17
  | .notDirectory => some 20
  | .isDirectory => some 21
  | .nameTooLong => some 36
  | .nullCharacter => none

/-- The words for a fault. -/
def SystemFault.message : SystemFault → String
  | .notFound => "No such file or directory"
  | .busy => "Device or resource busy"
  | .exists => "File exists"
  | .notDirectory => "Not a directory"
  | .isDirectory => "Is a directory"
  | .nameTooLong => "File name too long"
  | .nullCharacter => "embedded null byte"

/-- A refused operation, with the path it was about and the path it was to move it to. -/
structure SystemFailure where
  fault : SystemFault
  path : Path
  target : Option Path := none
  deriving DecidableEq, Repr

/-- What is said of a refused operation. -/
def SystemFailure.message (failure : SystemFailure) : String :=
  let quoted (path : Path) : String := String.ofList (Text.quote path.toText)
  match failure.fault.code? with
  | none => failure.fault.message
  | some code =>
    "[Errno " ++ toString code ++ "] " ++ failure.fault.message ++ ": " ++ quoted failure.path ++
      match failure.target with
      | some target => " -> " ++ quoted target
      | none => ""

/-- The most bytes that a name has. -/
def nameLimit : Nat := 255

/-- The most bytes that a path has. -/
def pathLimit : Nat := 4095

/-- How many bytes a text takes in a path. -/
def byteCount (text : List Char) : Nat :=
  (Text.encode text).length

/-- What is at a place. -/
inductive Node where
  | directory
  | file (content : Bytes)
  deriving DecidableEq, Repr

/-- The files and directories of a workspace, its working directory, the home directory of its user
and those of other users by name. The root is a directory without being listed. -/
structure FileTree where
  files : List (Place × Bytes) := []
  directories : List Place := []
  current : Place
  home : Place
  homes : List (Part × Place) := []

namespace FileTree

/-- The content of the file at a place. -/
def content? (tree : FileTree) (place : Place) : Option Bytes :=
  (tree.files.find? fun file => file.1 == place).map (·.2)

/-- What is at a place. -/
def node? (tree : FileTree) (place : Place) : Option Node :=
  match tree.content? place with
  | some content => some (.file content)
  | none =>
    if place.isEmpty || tree.directories.contains place then some .directory else none

/-- Set the content of the file at a place. -/
def setFile (tree : FileTree) (place : Place) (content : Bytes) : FileTree :=
  { tree with files := (place, content) :: tree.files.filter fun file => file.1 != place }

/-- Remove the file at a place. -/
def removeFile (tree : FileTree) (place : Place) : FileTree :=
  { tree with files := tree.files.filter fun file => file.1 != place }

/-- Make a directory at a place. -/
def addDirectory (tree : FileTree) (place : Place) : FileTree :=
  if tree.directories.contains place then tree
  else { tree with directories := place :: tree.directories }

/-- Put a file at a place, with every directory above it. -/
def putFile (tree : FileTree) (place : Place) (content : Bytes) : FileTree :=
  let above := (List.range place.length).map fun count => place.take count
  (above.foldl addDirectory tree).setFile place content

/-- Follow parts from a place. The last part may name what is not there. -/
def follow (tree : FileTree) (place : Place) : List Part → Except SystemFault Place
  | [] => .ok place
  | part :: rest =>
    match tree.node? place with
    | some .directory =>
      if byteCount part > nameLimit then .error .nameTooLong
      else follow tree (Path.step place part) rest
    | some (.file _) => .error .notDirectory
    | none => .error .notFound

/-- The place that a path leads to. -/
def locate (tree : FileTree) (path : Path) : Except SystemFailure Place :=
  let found : Except SystemFault Place :=
    if path.hasNull then .error .nullCharacter
    else if byteCount path.toText > pathLimit then .error .nameTooLong
    else tree.follow (if path.isAbsolute then [] else tree.current) path.parts
  found.mapError fun fault => { fault, path }

/-- The place that a path names, whatever is there. -/
def resolve (tree : FileTree) (path : Path) : Except SystemFailure Place :=
  if path.hasNull then .error { fault := .nullCharacter, path }
  else .ok (path.resolve tree.current)

/-- What is found along a path. -/
def find? (tree : FileTree) (path : Path) : Option Node :=
  match tree.locate path with
  | .ok place => tree.node? place
  | .error _ => none

/-- What is found along a path. That nothing can be there because a name is too long is a
failure. -/
def probe (tree : FileTree) (path : Path) : Except SystemFailure (Option Node) :=
  match tree.locate path with
  | .ok place => .ok (tree.node? place)
  | .error failure => if failure.fault = .nameTooLong then .error failure else .ok none

/-- Whether a path leads to anything. -/
def isThere (tree : FileTree) (path : Path) : Bool :=
  (tree.find? path).isSome

/-- Whether a path leads to a file. -/
def isFile (tree : FileTree) (path : Path) : Except SystemFailure Bool := do
  match ← tree.probe path with
  | some (.file _) => return true
  | _ => return false

/-- Whether a path leads to a directory. -/
def isDirectory (tree : FileTree) (path : Path) : Bool :=
  tree.find? path == some .directory

/-- The names in the directory that a path leads to, ascending; none if it leads to no directory. -/
def entries (tree : FileTree) (path : Path) : List Part :=
  match tree.locate path with
  | .error _ => []
  | .ok place =>
    if tree.node? place != some .directory then []
    else
      let known := tree.files.map (·.1) ++ tree.directories
      let inside := known.filter fun other => other.dropLast == place && !other.isEmpty
      ((inside.filterMap List.getLast?).mergeSort textPrecedes).eraseDups

/-- The content of the file that a path leads to. -/
def read (tree : FileTree) (path : Path) : Except SystemFailure Bytes := do
  let place ← tree.locate path
  match tree.node? place with
  | some (.file content) => .ok content
  | some .directory => .error { fault := .isDirectory, path }
  | none => .error { fault := .notFound, path }

/-- Write the file that a path leads to. Its directory must be there. -/
def write (tree : FileTree) (path : Path) (content : Bytes) : Except SystemFailure FileTree := do
  let place ← tree.locate path
  match tree.node? place with
  | some .directory => .error { fault := .isDirectory, path }
  | _ => .ok (tree.setFile place content)

/-- Make the directory that a path leads to. Its own directory must be there. -/
def makeDirectory (tree : FileTree) (path : Path) : Except SystemFailure FileTree := do
  let place ← tree.locate path
  match tree.node? place with
  | some _ => .error { fault := .exists, path }
  | none => .ok (tree.addDirectory place)

/-- Make a directory unless it is there. -/
def ensureDirectory (tree : FileTree) (path : Path) : Except SystemFailure FileTree :=
  match tree.makeDirectory path with
  | .ok made => .ok made
  | .error failure => if tree.isDirectory path then .ok tree else .error failure

/-- Make a directory and those above it unless they are there. What was made before a failure
stays. -/
def ensureDirectories (tree : FileTree) (path : Path) : FileTree × Except SystemFailure Unit :=
  match tree.makeDirectory path with
  | .ok made => (made, .ok ())
  | .error failure =>
    if failure.fault = .notFound ∧ path.parts ≠ [] then
      match ensureDirectories tree path.parent with
      | (above, .error failure) => (above, .error failure)
      | (above, .ok ()) =>
        match above.ensureDirectory path with
        | .ok made => (made, .ok ())
        | .error failure => (above, .error failure)
    else if tree.isDirectory path then (tree, .ok ())
    else (tree, .error failure)
termination_by path.parts.length
decreasing_by
  have positive : 0 < path.parts.length := List.length_pos_iff.mpr (by simp_all)
  simp only [Path.parent, List.length_dropLast]
  omega

/-- Move a file to where another path leads, over a file that is there. A move is refused for what
the paths lead to. That a system also refuses one for want of permission, or because a directory is
mounted in between, is not told here, where all files are in one tree and may be written. -/
def moveFile (tree : FileTree) (source target : Path) : Except SystemFailure FileTree := do
  let refuse (fault : SystemFault) : SystemFailure :=
    { fault, path := source, target := some target }
  let fromPlace ← (tree.locate source).mapError fun failure => refuse failure.fault
  let toPlace ← (tree.locate target).mapError fun failure => refuse failure.fault
  match tree.content? fromPlace with
  | none => .error (refuse .notFound)
  | some content =>
    if target.parts.getLast? == some stepUp || target.parts.isEmpty then .error (refuse .busy)
    else if tree.node? toPlace == some .directory then .error (refuse .isDirectory)
    else .ok ((tree.removeFile fromPlace).setFile toPlace content)

/-- Every file below a path, with the parts that lead to it from there. -/
def filesBelow (tree : FileTree) (path : Path) : List (Place × Bytes) :=
  match tree.locate path with
  | .error _ => []
  | .ok place =>
    tree.files.filterMap fun (other, content) =>
      (Path.below? place other).bind fun parts =>
        if parts.isEmpty then none else some (parts, content)

@[simp] theorem content?_setFile (tree : FileTree) (place : Place) (content : Bytes) :
    (tree.setFile place content).content? place = some content := by
  simp [content?, setFile]

theorem content?_setFile_ne (tree : FileTree) {place other : Place} (content : Bytes)
    (apart : other ≠ place) :
    (tree.setFile place content).content? other = tree.content? other := by
  have first : (place == other) = false := by simpa using Ne.symm apart
  simp only [content?, setFile, List.find?_cons, first, List.find?_filter]
  congr 1
  congr 1
  funext file
  by_cases same : file.1 = other
  · simp [same, apart]
  · simp [same]

end FileTree

end SchemaDoc.Workspace
