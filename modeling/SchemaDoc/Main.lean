import SchemaDoc.CommandLine.Run

/-!
# The program

The program works on files that standard input names, one path a line, and on what it writes
itself. The descriptors of schema files are taken from descriptor sets among those files that the
environment variable SCHEMA_DOC_DESCRIPTORS names, separated by colons. Nothing gives notice of
changes, so a watch builds once.
-/
namespace SchemaDoc.Program

open Compile (Table)
open Text (Bytes)
open Workspace (FileTree Path Place splitAt)

/-- What is shown when help is asked for or the command line makes no sense. -/
def usage : String :=
  "usage: schema-doc [-v] embed FILES... -o OUTPUT [-I DIRECTORY]...\n" ++
  "       schema-doc [-v] embed-set SET OUTPUT\n" ++
  "       schema-doc [-v] extract FILES... [-o DIRECTORY] [-I DIRECTORY]...\n" ++
  "       schema-doc [-v] watch DIRECTORY -o OUTPUT"

/-- The rows of a table for the files of a descriptor set. -/
def tableOf (content : Bytes) : Table :=
  match Descriptor.decode .fileSet content with
  | .ok set => (Descriptor.files set).map fun file => (Text.display (file.text 1), file)
  | .error _ => []

/-- The descriptors in the sets that a variable names. -/
def gatherTable (tree : FileTree) (variableText : List Char) : Table :=
  (splitAt ':' variableText).flatMap fun name =>
    match tree.read (Path.ofText name) with
    | .ok content => tableOf content
    | .error _ => []

/-- The files that are not as they were. -/
def changedFiles (before after : FileTree) : List (Place × Bytes) :=
  after.files.filter fun (place, content) => before.content? place != some content

/-- The lines of a stream. -/
partial def readLines (stream : IO.FS.Stream) : IO (List String) := do
  let line ← stream.getLine
  if line.isEmpty then return []
  let named := if line.endsWith "\n" then (line.dropEnd 1).toString else line
  return named :: (← readLines stream)

/-- The place that an environment variable names. -/
def placeOf (name : String) : IO Place := do
  let value := (← IO.getEnv name).getD "/"
  return (Path.ofText value.toList).resolve []

/-- The files that a list of paths names. -/
def readTree (names : List String) : IO FileTree := do
  let current ← placeOf "PWD"
  let mut tree : FileTree := { current, home := ← placeOf "HOME" }
  tree := tree.addDirectory current
  for name in names do
    let content ← IO.FS.readBinFile name
    tree := tree.putFile ((Path.ofText name.toList).resolve current) content.toList
  return tree

/-- Write a file and the directories above it. -/
def writeFile (place : Place) (content : Bytes) : IO Unit := do
  IO.FS.createDirAll (Path.ofPlace place.dropLast).display
  IO.FS.writeBinFile (Path.ofPlace place).display (ByteArray.mk content.toArray)

/-- Run the program on a command line; gives its exit status. -/
def run (arguments : List String) : IO UInt32 := do
  let request := CommandLine.readArguments (arguments.map String.toList)
  let tree ← readTree (← readLines (← IO.getStdin))
  let descriptors := (← IO.getEnv "SCHEMA_DOC_DESCRIPTORS").getD ""
  let table := gatherTable tree descriptors.toList
  let setup : CommandLine.Setup :=
    { variableText := (← IO.getEnv "PROTO_DOC_DESCRIPTION_ID").map String.toList
      compiler := fun includes => table.compiler (includes.headD CommandLine.standardInclude) }
  let outcome := request.run setup tree
  match request with
  | .command .. => pure ()
  | .help => IO.println usage
  | .misuse => IO.eprintln usage
  for (place, content) in changedFiles tree outcome.tree do
    writeFile place content
  for entry in outcome.log do
    IO.eprintln (entry.level.name ++ " " ++ entry.message)
  IO.print (String.ofList outcome.output)
  IO.eprint (String.ofList outcome.errors)
  match outcome.crash with
  | some (.failure failure) => IO.eprintln failure.message
  | some (.markup fault) => IO.eprintln fault.message
  | none => pure ()
  return UInt32.ofNat outcome.status

end SchemaDoc.Program

def main (arguments : List String) : IO UInt32 :=
  SchemaDoc.Program.run arguments
