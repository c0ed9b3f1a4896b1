import SchemaDoc.Comment.Paragraph
import SchemaDoc.Description.Store
import SchemaDoc.Descriptor.Resolution
import SchemaDoc.Log
import SchemaDoc.Text.Malformation

/-!
# Embedding comments

Every comment at a source location is stored in the options of the declaration that the location
belongs to, under the number of its kind. The comment on a file is the one before its package
statement, or else the one before its syntax statement. Files of the standard library are left as
they are.
-/
namespace SchemaDoc.Description

open Comment (joinLines)
open Descriptor (DecodeError EncodeError Entry EntityKind Location Message Path decode locations
  modifyAt resolveDeclaration)
open Text (Bytes encode isBlankByte strip trim)

/-- Why comments cannot be embedded. -/
inductive EmbedError where
  | decode (error : DecodeError)
  /-- A file has a name that is not text. -/
  | nameNotText
  /-- A comment that is not text cannot have its lines joined. -/
  | commentNotJoinable
  /-- A comment that is not text cannot be stored. -/
  | commentNotText (content : Bytes)
  /-- Options that are read, or the set with the comments, are missing required fields. -/
  | unwritable (error : EncodeError)
  deriving DecidableEq, Repr

/-- What is said of a failure to embed. -/
def EmbedError.message : EmbedError → String
  | .decode error => error.message
  | .nameNotText => "startswith first arg must be bytes or a tuple of bytes, not str"
  | .commentNotJoinable => "cannot use a string pattern on a bytes-like object"
  | .commentNotText content => Text.undecodableMessage content
  | .unwritable error => error.message

/-- How comments are prepared and what is kept beside them. -/
structure EmbedFlags where
  joinLines : Bool := false
  stripSourceInfo : Bool := false
  deriving DecidableEq, Repr

/-- A comment as it is stored: trimmed or joined, and nothing if no more is left of it. -/
def normalize (join : Bool) (comment : Bytes) : Except EmbedError (Option Bytes) :=
  let kept (content : Bytes) : Option Bytes := if content.isEmpty then none else some content
  match Text.decode comment with
  | some text => .ok (kept (encode (if join then joinLines text else strip text)))
  | none => if join then .error .commentNotJoinable else .ok (kept (trim isBlankByte comment))

/-- The comment at a location: the leading one if it is set, else the trailing one. -/
def locationComment (join : Bool) (location : Location) : Except EmbedError (Option Bytes) :=
  match location.leading, location.trailing with
  | some comment, _ => normalize join comment
  | none, some comment => normalize join comment
  | none, none => .ok none

/-- What became of a location. -/
inductive Outcome where
  /-- There is no comment. -/
  | uncommented
  /-- The comment belongs to no declaration. -/
  | unowned
  /-- The kind of the declaration has no number. -/
  | disabled
  /-- The declaration has the description already. -/
  | present
  | added
  deriving DecidableEq, Repr

/-- Append a description to the options of an entity. Options come into existence only when they
take something in. -/
def describe (kind : EntityKind) (entity : Message) (number : OptionNumber) (comment : Bytes) :
    Except EmbedError (Bool × Message) :=
  let options := (entity.child? kind.optionsTag).getD []
  let appending := append kind.optionsType options number.value comment
  match appending.added with
  | .ok true => .ok (true, entity.setChild kind.optionsTag appending.options)
  | .ok false => .ok (false, entity)
  | .error (.unwritable error) => .error (.unwritable error)
  | .error .notText => .error (.commentNotText comment)
  | .error (.decode error) => .error (.decode error)

/-- Embed the comment at one location. -/
def embedLocation (ids : Ids) (join : Bool) (file : Message) (location : Location) :
    Except EmbedError (Outcome × Message) := do
  match ← locationComment join location with
  | none => return (.uncommented, file)
  | some comment =>
    match resolveDeclaration file location.path with
    | none => return (.unowned, file)
    | some (kind, entity) =>
      match ids.forKind kind with
      | none => return (.disabled, file)
      | some number =>
        let (grown, entity) ← describe kind entity number comment
        if grown then return (.added, modifyAt (fun _ => entity) location.path file)
        else return (.present, file)

/-- The name of a file in messages. -/
def fileName (file : Message) : String :=
  String.ofList (Text.display (file.text 1))

/-- Embed the comments at locations in order; also counts what was added. -/
def embedLocations (ids : Ids) (join : Bool) :
    Message → List Location → Logged EmbedError (Nat × Message)
  | file, [] => pure (0, file)
  | file, location :: rest => do
    let (outcome, changed) ← Logged.ofExcept (embedLocation ids join file location)
    if outcome = .unowned then
      Logged.note .debug
        ("No commentable entity at path " ++ showNumbers location.path ++ " in " ++ fileName file)
    let (count, final) ← embedLocations ids join changed rest
    return (if outcome = .added then count + 1 else count, final)

/-- The paths of the statements whose comment is about the file, the better one first. -/
def fileCommentPaths : List Path := [[2], [12]]

/-- The comment about a file: the leading comment of the last location at the first of the paths
that has one. -/
def fileComment (join : Bool) (locations : List Location) : Except EmbedError (Option Bytes) :=
  fileCommentPaths.foldlM
    (fun found path =>
      match found, (locations.filter (·.path == path)).getLast?.bind (·.leading) with
      | none, some comment => normalize join comment
      | found, _ => .ok found)
    none

/-- Embed the comment about a file in its own options. -/
def embedFileComment (ids : Ids) (join : Bool) (file : Message) :
    Except EmbedError (Nat × Message) :=
  match ids.forKind .file with
  | none => .ok (0, file)
  | some number => do
    match ← fileComment join (locations file) with
    | none => return (0, file)
    | some comment =>
      let (grown, changed) ← describe .file file number comment
      return (if grown then 1 else 0, changed)

/-- Embed every comment of a file; also counts what was added. -/
def embedFile (ids : Ids) (join : Bool) (file : Message) : Logged EmbedError (Nat × Message) := do
  let (count, described) ← embedLocations ids join file (locations file)
  let (more, final) ← Logged.ofExcept (embedFileComment ids join described)
  return (count + more, final)

/-- What the names of standard library files start with. -/
def standardDirectory : List Char := "google/".toList

/-- Embed the comments of one file of a set, unless it belongs to the standard library. -/
def embedMember (ids : Ids) (flags : EmbedFlags) (file : Message) : Logged EmbedError Message :=
  match Text.decode (file.text 1) with
  | none => Logged.fail .nameNotText
  | some name =>
    if standardDirectory.isPrefixOf name then pure file
    else do
      let (count, described) ← embedFile ids flags.joinLines file
      Logged.note .info
        ("Embedded " ++ toString count ++ " comment(s) in " ++ fileName described)
      return if flags.stripSourceInfo then described.clear 9 else described

/-- Embed the comments of every file among the entries of a set. -/
def embedEntries (ids : Ids) (flags : EmbedFlags) :
    List Entry → Logged EmbedError (List Entry)
  | [] => pure []
  | entry :: rest => do
    let changed ← match Message.childOf? 1 entry with
      | some file => (Entry.message 1 ·) <$> embedMember ids flags file
      | none => pure entry
    let others ← embedEntries ids flags rest
    return changed :: others

/-- Embed the comments of a descriptor set in its written form, and write it again. -/
def embedSet (ids : Ids) (flags : EmbedFlags) (data : Bytes) : Logged EmbedError Bytes := do
  let set ← (Logged.ofExcept (decode .fileSet data)).mapError .decode
  let embedded ← embedEntries ids flags set
  (Logged.ofExcept (Message.serialize .fileSet embedded)).mapError .unwritable

end SchemaDoc.Description
