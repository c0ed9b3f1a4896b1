import SchemaDoc.Workspace.Glob
import SchemaDoc.Workspace.Home

/-!
# Selecting files

The user names files by path or by pattern; a pattern that selects nothing is refused. Schema
files are found below a directory by the end of their name, and a schema file is named by its way
from an include root.
-/
namespace SchemaDoc.Job

open Workspace (FileTree Part Path Place expandHome expandPattern hasWildcard settle textsPrecede)

/-- The files that one pattern selects. -/
def select (tree : FileTree) (pattern : List Char) : Except Failure (List Path) := do
  let path ← expandHome tree (Path.ofText pattern)
  let found ←
    if hasWildcard path.toText then (expandPattern tree path).mapError .system else .ok [path]
  let files ← found.filterM fun path => (tree.isFile path).mapError .system
  if files.isEmpty then .error (.noMatch pattern) else return files

/-- The files that patterns select, each once, in the order of the patterns. -/
def selectAll (tree : FileTree) (patterns : List (List Char)) : Except Failure (List Path) := do
  return (← patterns.mapM (select tree)).flatten.eraseDups

/-- What the name of a schema file ends with. -/
def schemaSuffix : List Char := ".proto".toList

/-- Whether a file is a schema file by its name. -/
def isSchemaName (name : Part) : Bool :=
  schemaSuffix.isSuffixOf name

/-- The schema files below a directory, hidden ones too, in the order of their parts. -/
def schemaFiles (tree : FileTree) (directory : Path) : Except Failure (List Path) := do
  let _ ← (tree.probe directory).mapError .system
  let below := ((tree.filesBelow directory).map (·.1)).filter fun parts =>
    (parts.getLast?.map isSchemaName).getD false
  return (below.mergeSort textsPrecede).map fun parts => directory.append { anchor := [], parts }

/-- The name of a file that lies below an include root. -/
def relativeName (tree : FileTree) (file root : Path) : Except Failure (List Char) :=
  match settle tree file, settle tree root with
  | .error .unknownHome, _ => .error .unknownHome
  | .error _, _ => .error (.notUnderInclude file root)
  | .ok _, .error .unknownHome => .error .unknownHome
  | .ok _, .error _ => .error (.notUnderInclude file root)
  | .ok place, .ok base =>
    match Path.below? base place with
    | some parts => .ok (Path.relativeText parts)
    | none => .error (.notUnderInclude file root)

end SchemaDoc.Job
