import SchemaDoc.Description.Restoration
import SchemaDoc.Job.Embed
import SchemaDoc.Job.Selection

/-!
# Extracting descriptions from schema files

Every schema file is written again below an output directory, with the descriptions in its
options as comments. A file is written when its new text is complete, and before the next file is
read.
-/
namespace SchemaDoc.Job

open Compile (Compiler Request)
open Description (Ids RestoreError restore)
open Descriptor (decode findFile?)
open Workspace (Action Path)

/-- What has to be compiled to extract the descriptions of a file. -/
def extractRequest (file : Path) : Request where
  files := [file]
  includeImports := false
  includeSourceInfo := true

/-- The cause for which a job ends early when descriptions cannot be put back. -/
def causeOf : RestoreError → Failure
  | .notText content => .notText content
  | .unwritable error => .unwritable error

/-- The name of a file below the compiler's root, and its new text. -/
def extractFile (compiler : Compiler) (file : Path) (ids : Ids) :
    JobAction (List Char × List Char) := do
  let name ← Action.inspect fun tree => relativeName tree file compiler.root
  let content ← readFile file
  match Text.decode content with
  | none => Action.fail (.notText content)
  | some source =>
    let data ← compile compiler (extractRequest file)
    match decode .fileSet data with
    | .error error => Action.fail (.undecodable error)
    | .ok set =>
      match findFile? set name with
      | none => Action.fail (.missingDescriptor name)
      | some descriptor =>
        let text ← Action.ofLogged ((restore source descriptor ids).mapError causeOf)
        return (name, text)

/-- Write the new text of one file; also says where. -/
def extractTo (compiler : Compiler) (output : Path) (ids : Ids) (file : Path) :
    JobAction Path := do
  let (name, text) ← extractFile compiler file ids
  let path := output.append (Path.ofText name)
  writeFile path (Text.encode text)
  Action.note { level := .info, message := "Wrote " ++ path.display }
  return path

/-- Write the new texts of files in order; also says where. -/
def extractFiles (compiler : Compiler) (output : Path) (ids : Ids) :
    List Path → JobAction (List Path)
  | [] => pure []
  | file :: rest => do
    let path ← extractTo compiler output ids file
    let others ← extractFiles compiler output ids rest
    return path :: others

end SchemaDoc.Job
