import SchemaDoc.Compile.Compiler
import SchemaDoc.Job.Output

/-!
# Embedding the comments of schema files

Schema files are compiled together, with what they import and with their source locations, and
their comments are embedded in the descriptor set.
-/
namespace SchemaDoc.Job

open Compile (Compiler Request)
open Description (EmbedFlags Ids embedSet)
open Text (Bytes)
open Workspace (Action Path)

/-- Compile what is requested. -/
def compile (compiler : Compiler) (request : Request) : JobAction Bytes :=
  Action.inspect fun tree => compiler.compile tree request

/-- What has to be compiled to embed the comments of files. -/
def embedRequest (files : List Path) : Request where
  files := files
  includeImports := true
  includeSourceInfo := true

/-- Embed the comments of a written descriptor set. -/
def embedData (ids : Ids) (flags : EmbedFlags) (data : Bytes) : JobAction Bytes :=
  Action.ofLogged ((embedSet ids flags data).mapError .embedding)

/-- The descriptor set of files with their comments embedded. -/
def embedFiles (compiler : Compiler) (files : List Path) (ids : Ids) (flags : EmbedFlags) :
    JobAction Bytes := do
  let data ← compile compiler (embedRequest files)
  Action.note { level := .info, message := "Compiled " ++ toString files.length ++ " file(s)" }
  embedData ids flags data

end SchemaDoc.Job
