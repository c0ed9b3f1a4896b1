import SchemaDoc.Failure
import SchemaDoc.Workspace.Action

/-!
# Writing results

The directories above a result are made when it is written. A descriptor set is written to a
sibling first, which then takes the place of the old one, so that no reader sees half of it.
-/
namespace SchemaDoc.Job

open Text (Bytes)
open Workspace (Action FileTree Path SystemFailure)

/-- Something done on a workspace for the user. -/
abbrev JobAction := Action LogEntry Failure

/-- A change of the files that the file system may refuse. -/
def changeFiles (step : FileTree → Except SystemFailure FileTree) : JobAction Unit :=
  Action.change fun tree => (step tree).mapError .system

/-- Make the directories above a path. -/
def makeParents (path : Path) : JobAction Unit := fun tree =>
  let (made, result) := tree.ensureDirectories path.parent
  { tree := made, notes := [], result := result.mapError .system }

/-- What the name of the sibling ends with. -/
def siblingSuffix : List Char := ".partial".toList

/-- Put content at a path by way of a sibling. -/
def writeOutput (path : Path) (content : Bytes) : JobAction Unit := do
  makeParents path
  match path.name? with
  | none => Action.fail (.unnamed path)
  | some name =>
    let sibling := path.withName (name ++ siblingSuffix)
    changeFiles fun tree => tree.write sibling content
    changeFiles fun tree => tree.moveFile sibling path

/-- Write a file and the directories above it. -/
def writeFile (path : Path) (content : Bytes) : JobAction Unit := do
  makeParents path
  changeFiles fun tree => tree.write path content

/-- The content of a file. One that is not there is missed by name. -/
def readFile (path : Path) : JobAction Bytes :=
  Action.inspect fun tree =>
    (tree.read path).mapError fun failure =>
      if failure.fault = .notFound then .missingFile path else .system failure

end SchemaDoc.Job
