import SchemaDoc.Description.Embedding
import SchemaDoc.Description.Ids
import SchemaDoc.Descriptor.FileSet
import SchemaDoc.Workspace.FileTree

/-!
# Why a job fails

A job ends early for one of these causes. Most are expected of bad input and are reported to the
user; the others are not, and end the program.
-/
namespace SchemaDoc

open Description (DefaultError EmbedError NumberFault SettingsError)
open Descriptor (DecodeError EncodeError EntityKind)
open Text (Bytes)
open Workspace (Path Place SystemFailure)

/-- The causes for which a job ends early. -/
inductive Failure where
  /-- The numbers that were given are no option numbers. -/
  | badNumbers (given : EntityKind → Option Int) (error : SettingsError)
  | badDefault (error : DefaultError)
  | noMatch (pattern : List Char)
  | missingFile (path : Path)
  | missingDirectory (path : Path)
  /-- A path starts from the home directory of a user who is not known. -/
  | unknownHome
  | notUnderInclude (file root : Path)
  | outsideRoot (place root : Place)
  | noInclude
  /-- The compiler rejected files, for the reason that it gave. -/
  | rejected (files : List Path) (reason : List Char)
  | missingDescriptor (name : List Char)
  | undecodable (error : DecodeError)
  /-- A message that is to be written is missing required fields. -/
  | unwritable (error : EncodeError)
  | embedding (error : EmbedError)
  /-- Bytes that have to be text are not. -/
  | notText (content : Bytes)
  /-- A path has no last part to be replaced. -/
  | unnamed (path : Path)
  | system (failure : SystemFailure)

/-- The most characters of a given value that a message shows. -/
def shownLimit : Nat := 50

/-- A value as a message shows it: of a long one, the start and the end. -/
def shorten (text : List Char) : List Char :=
  if text.length ≤ shownLimit then text
  else text.take (shownLimit / 2) ++ "...".toList ++ text.drop (text.length - (shownLimit / 2 - 1))

/-- What is said of one number that is no option number. -/
def numberMessage (given : Option Int) (kind : EntityKind) (fault : NumberFault) : String :=
  let value := (given.map toString).getD "None"
  let type := if given.isSome then "int" else "NoneType"
  kind.name ++ "\n  " ++ fault.message ++ " [type=" ++ fault.name ++ ", input_value=" ++
    String.ofList (shorten value.toList) ++ ", input_type=" ++ type ++
    "]\n    For further information visit https://errors.pydantic.dev/2.14/v/" ++ fault.name

/-- What is said of numbers that are no option numbers. -/
def numbersMessage (given : EntityKind → Option Int) (error : SettingsError) : String :=
  let count := error.faults.length
  String.intercalate "\n"
    ((toString count ++ " validation error" ++ (if count = 1 then "" else "s") ++
        " for DescriptionIds") ::
      error.faults.map fun (kind, fault) => numberMessage (given kind) kind fault)

/-- A text in quotes. -/
def quoted (text : List Char) : String :=
  String.ofList (Text.quote text)

namespace Failure

/-- What is said of a failure. -/
def message : Failure → String
  | .badNumbers given error => numbersMessage given error
  | .badDefault error => error.message
  | .noMatch pattern => "No files match: " ++ String.ofList pattern
  | .missingFile path => "File not found: " ++ path.display
  | .missingDirectory path => "Directory not found: " ++ path.display
  | .unknownHome => "Could not determine home directory."
  | .notUnderInclude file root =>
    file.display ++ " is not under include directory " ++ root.display
  | .outsideRoot place root =>
    quoted (Path.ofPlace place).toText ++ " is not in the subpath of " ++
      quoted (Path.ofPlace root).toText ++ " OR one path is relative and the other is absolute."
  | .noInclude => "At least one include directory is required."
  | .rejected files reason =>
    "protoc failed for " ++ String.intercalate ", " (files.map Path.display) ++ ": " ++
      String.ofList (Text.strip reason)
  | .missingDescriptor name => Descriptor.missingFileMessage name
  | .undecodable error => error.message
  | .unwritable error => error.message
  | .embedding error => error.message
  | .notText content => Text.undecodableMessage content
  | .unnamed path => "PosixPath(" ++ quoted path.toText ++ ") has an empty name"
  | .system failure => failure.message

/-- Whether a failure is reported to the user. -/
def isExpected : Failure → Bool
  | .unknownHome | .unwritable _ | .embedding .nameNotText | .embedding .commentNotJoinable
  | .embedding (.unwritable _) => false
  | _ => true

end Failure

end SchemaDoc
