import SchemaDoc.Compile.Compiler
import SchemaDoc.Text.Blank
import SchemaDoc.Workspace.Home

/-!
# The compiler program

Schema files are compiled by a program of its own that is given its include directories, the
place for the descriptor set and the files on its command line. Only files that are there are
given to it.
-/
namespace SchemaDoc.Compile

open Text (Bytes)
open Workspace (FileTree Path Place expandHome settle)

/-- A command line. -/
abbrev Invocation := List (List Char)

/-- Where the parts of the program are, and where its output goes. -/
structure Installation where
  interpreter : List Char
  /-- The include directory of the standard library. -/
  standardInclude : List Char
  output : List Char

/-- How a run of the program ended. -/
structure Finish where
  status : Int
  errors : List Char
  output : List Char
  written : Bytes

/-- The places of the include directories. -/
def includePlaces (tree : FileTree) (includes : List Path) : Except Failure (List Place) :=
  if includes.isEmpty then .error .noInclude else includes.mapM (settle tree)

/-- Check that a file is there. -/
def requireFile (tree : FileTree) (file : Path) : Except Failure Unit := do
  let expanded ← expandHome tree file
  if ← (tree.isFile expanded).mapError .system then return ()
  else .error (.missingFile file)

/-- The command line for a request. -/
def commandLine (installation : Installation) (tree : FileTree) (includes : List Place)
    (request : Request) : Except Failure Invocation := do
  for file in request.files do
    requireFile tree file
  let files ← request.files.mapM (settle tree)
  let text (place : Place) : List Char := (Path.ofPlace place).toText
  let searched := includes.map text ++ [installation.standardInclude]
  return [installation.interpreter, "-m".toList, "grpc_tools.protoc".toList] ++
    searched.map ("--proto_path=".toList ++ ·) ++
    ["--descriptor_set_out=".toList ++ installation.output] ++
    (if request.includeImports then ["--include_imports".toList] else []) ++
    (if request.includeSourceInfo then ["--include_source_info".toList] else []) ++
    files.map text

/-- What a finished run gives: the descriptor set, or what the program complained of. -/
def Finish.result (finish : Finish) (request : Request) : Except Failure Bytes :=
  if finish.status = 0 then .ok finish.written
  else
    let reason := if finish.errors.isEmpty then finish.output else finish.errors
    .error (.rejected request.files reason)

end SchemaDoc.Compile
