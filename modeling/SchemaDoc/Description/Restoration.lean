import SchemaDoc.Comment.Layout
import SchemaDoc.Description.Annotation
import SchemaDoc.Description.Store
import SchemaDoc.Descriptor.Resolution
import SchemaDoc.Editing.Batch
import SchemaDoc.Editing.Region
import SchemaDoc.Log

/-!
# Restoring comments

Descriptions that are stored in the options of a compiled schema are put back into its source as
line comments before their declarations, and the option entries that held them are removed. What
is to be done is settled for each declaration on the unchanged source; the edits of all of them
are then applied at once.
-/
namespace SchemaDoc.Description

open Comment (layoutWords)
open Descriptor (EncodeError EntityKind Location Message Path Span locations resolveDeclaration)
open Editing (Edit Region clip displayPosition lineStart mergeAdjacent slice splice widenEntry
  widenStatement)
open Text (Bytes encode isBlankByte leadingBlanks quoteBytes trimEnd words wordsBy)

/-- The words of a stored description. Those of one that is not text are shown quoted. -/
def descriptionWords (description : Bytes) : List (List Char) :=
  match Text.decode description with
  | some text => words text
  | none => (wordsBy isBlankByte description).map quoteBytes

/-- An entity whose descriptions go back into the source. -/
structure Described where
  /-- The path of the option that holds the descriptions. -/
  optionPath : Path
  descriptions : List Bytes
  /-- The locations of the entries that wrote the descriptions. -/
  annotations : List Location
  /-- The place that the comments go to. -/
  position : Nat
  /-- Whether the entries stand in brackets. -/
  bracketed : Bool

namespace Described

/-- The annotations that are paired with a description. -/
def paired (entity : Described) : List Location :=
  entity.annotations.take entity.descriptions.length

end Described

/-- Where a span starts in the source. -/
def spanStart (buffer : Bytes) (span : Span) : Nat :=
  displayPosition buffer span.startLine span.startColumn Editing.defaultTabWidth

/-- The bytes that a span covers. -/
def spanRegion (buffer : Bytes) (span : Span) : Region :=
  let start := spanStart buffer span
  let stop := displayPosition buffer span.endLine span.endColumn Editing.defaultTabWidth
  { start := start, length := stop - start }

/-- What is deleted with the paired annotations. Neighbouring entries in brackets go together, so
that a list that loses all of them loses its brackets too. -/
def deletedRegions (buffer : Bytes) (entity : Described) : List Region :=
  let spans := entity.paired.filterMap Location.span?
  let regions := spans.map (spanRegion buffer)
  if entity.bracketed then (mergeAdjacent buffer regions).map (widenEntry buffer)
  else regions.map (widenStatement buffer)

/-- The part of a line that stands before a place. -/
def linePrefix (buffer : Bytes) (position : Nat) : Bytes :=
  slice buffer (lineStart buffer position) position

/-- The comments to insert at a place, laid out with the indentation of its line. A declaration
that has code before it on its line moves to a line of its own. -/
def commentBlock (buffer : Bytes) (position : Nat) (descriptions : List Bytes) : Bytes :=
  let (indent, code) := leadingBlanks (linePrefix buffer position)
  let comments := descriptions.flatMap fun description =>
    layoutWords (descriptionWords description) indent
  encode (if code.isEmpty then comments else '\n' :: indent ++ comments)

/-- The blanks that would be left at the end of a line when a declaration moves off it. -/
def blanksBefore (buffer : Bytes) (position : Nat) : List Edit :=
  let before := linePrefix buffer position
  let kept := trimEnd isBlankByte before
  let blanks : Int := before.length - kept.length
  if kept.isEmpty || blanks = 0 then [] else [.deletion (position - blanks) blanks]

/-- The edits that put the descriptions of one entity back. -/
def Described.edits (buffer : Bytes) (entity : Described) : List Edit :=
  (deletedRegions buffer entity).map (fun region => .deletion region.start region.length) ++
    blanksBefore buffer entity.position ++
    [.insertion entity.position (commentBlock buffer entity.position entity.descriptions)]

/-- What is found at a path of the source information. -/
inductive Finding where
  | described (entity : Described)
  /-- The entity is described, but its first location has no span to put comments at. -/
  | malformed (location : Location)

/-- What is found at a path, unless there is nothing to put back. -/
def findAt? (buffer : Bytes) (file : Message) (ids : Ids) (index : LocationIndex) (path : Path)
    (location : Location) : Option Finding :=
  match resolveDeclaration file path with
  | none => none
  | some (kind, descriptor) =>
    match ids.forKind kind with
    | none => none
    | some number =>
      let descriptions := readOwned kind descriptor number.value
      if descriptions.isEmpty then none
      else
        match location.span? with
        | none => some (.malformed location)
        | some span =>
          let optionPath := path ++ [(kind.optionsTag : Int), (number.value : Int)]
          some (.described
            { optionPath, descriptions
              annotations := index.annotations optionPath
              position := spanStart buffer span
              bracketed := kind.isBracketed })

/-- What is found at some of the paths, in the order of the paths. -/
def findAmong (buffer : Bytes) (file : Message) (ids : Ids) (index groups : LocationIndex) :
    List Finding :=
  groups.filterMap fun
    | (path, location :: _) => findAt? buffer file ids index path location
    | (_, []) => none

/-- What is found at each path, in the order of the paths. -/
def findAll (buffer : Bytes) (file : Message) (ids : Ids) (index : LocationIndex) :
    List Finding :=
  findAmong buffer file ids index index

/-- Where the comment about a file goes: to its package statement, else to its syntax statement,
else to the top. -/
def fileCommentPosition (buffer : Bytes) (index : LocationIndex) : Nat :=
  let spans := [[2], [12]].filterMap fun path =>
    (index.at? path).head?.bind Location.span?
  match spans with
  | span :: _ => spanStart buffer span
  | [] => 0

/-- The file itself, if it is described. -/
def describedFile? (buffer : Bytes) (file : Message) (ids : Ids) (index : LocationIndex) :
    Option Described :=
  match ids.forKind .file with
  | none => none
  | some number =>
    let descriptions := readOwned .file file number.value
    if descriptions.isEmpty then none
    else
      let optionPath := [(EntityKind.file.optionsTag : Int), (number.value : Int)]
      some
        { optionPath, descriptions
          annotations := index.annotations optionPath
          position := fileCommentPosition buffer index
          bracketed := false }

/-- What is to be done to a source. -/
structure Restoration where
  findings : List Finding
  file : Option Described

/-- Settle what is to be done to a source, given its compiled descriptor. -/
def Restoration.plan (buffer : Bytes) (file : Message) (ids : Ids) : Restoration :=
  let index := LocationIndex.ofLocations (locations file)
  { findings := findAll buffer file ids index
    file := describedFile? buffer file ids index }

/-- The entity of a finding, if comments can be put to it. -/
def Finding.entity? : Finding → Option Described
  | .described entity => some entity
  | .malformed _ => none

namespace Restoration

/-- The declarations that are put back to, in order. -/
def declarations (restoration : Restoration) : List Described :=
  restoration.findings.filterMap Finding.entity?

/-- Everything that is put back to, the file last. -/
def entities (restoration : Restoration) : List Described :=
  restoration.declarations ++ restoration.file.toList

/-- The edits to make, in the order in which they are staged. -/
def edits (buffer : Bytes) (restoration : Restoration) : List Edit :=
  restoration.entities.flatMap (Described.edits buffer)

/-- How many descriptions of declarations are restored. -/
def count (restoration : Restoration) : Nat :=
  (restoration.declarations.flatMap (·.descriptions)).length

end Restoration

/-- The entry about a location whose span is unusable. -/
def malformedEntry (location : Location) : LogEntry where
  level := .debug
  message := "Skipping malformed span " ++ showNumbers location.span ++ " at path " ++
    showNumbers location.path

/-- The entry about descriptions that do not match their annotations in number. -/
def pairingEntry (name : String) (entity : Described) : LogEntry where
  level := .warning
  message := name ++ ": " ++ toString entity.descriptions.length ++ " description(s) but " ++
    toString entity.annotations.length ++ " annotation(s) at path " ++
    showNumbers entity.optionPath ++ "; unmatched annotations are left in place"

/-- What is logged about an entity. -/
def Described.log (name : String) (entity : Described) : List LogEntry :=
  (if entity.descriptions.length = entity.annotations.length then []
    else [pairingEntry name entity]) ++
    (entity.paired.filter fun location => location.span?.isNone).map malformedEntry

/-- What is logged about a finding. -/
def Finding.log (name : String) : Finding → List LogEntry
  | .described entity => entity.log name
  | .malformed location => [malformedEntry location]

/-- What is logged about a restoration. -/
def Restoration.log (name : String) (restoration : Restoration) : List LogEntry :=
  restoration.findings.flatMap (Finding.log name) ++
    (restoration.file.toList.flatMap (Described.log name)) ++
    [{ level := .info
       message := "Restored " ++ toString restoration.count ++ " comment(s) in " ++ name }]

/-- What keeps the descriptions of an entity from being read, if its kind has a number. -/
def unreadable? (ids : Ids) (kind : EntityKind) (descriptor : Message) : Option EncodeError :=
  match ids.forKind kind with
  | none => none
  | some number =>
    match retrieveOwned kind descriptor number.value with
    | .error error => some error
    | .ok _ => none

/-- What keeps the descriptions of the declaration at a path from being read. -/
def unreadableAt? (file : Message) (ids : Ids) (path : Path) : Option EncodeError :=
  match resolveDeclaration file path with
  | none => none
  | some (kind, descriptor) => unreadable? ids kind descriptor

/-- What keeps the descriptions of a file from being read. Declarations are asked in the order of
their paths, and then the file itself. -/
def firstUnreadable? (file : Message) (ids : Ids) (index : LocationIndex) : Option EncodeError :=
  (index.findSome? fun group => unreadableAt? file ids group.1).or (unreadable? ids .file file)

/-- What is found before the first declaration whose descriptions cannot be read. -/
def findReadable (buffer : Bytes) (file : Message) (ids : Ids) (index : LocationIndex) :
    List Finding :=
  findAmong buffer file ids index
    (index.takeWhile fun group => (unreadableAt? file ids group.1).isNone)

/-- Why descriptions cannot be put back into a source. -/
inductive RestoreError where
  /-- The restored source is no longer text, because a location pointed into a character. -/
  | notText (content : Bytes)
  /-- Options that are read are missing required fields. -/
  | unwritable (error : EncodeError)
  deriving DecidableEq, Repr

/-- Put the descriptions of a file back into its source. -/
def restore (source : List Char) (file : Message) (ids : Ids) :
    Logged RestoreError (List Char) :=
  let buffer := encode source
  let index := LocationIndex.ofLocations (locations file)
  let name := String.ofList (Text.display (file.text 1))
  match firstUnreadable? file ids index with
  | some error =>
    { log := (findReadable buffer file ids index).flatMap (Finding.log name)
      result := .error (.unwritable error) }
  | none =>
    let restoration := Restoration.plan buffer file ids
    let content := splice buffer (restoration.edits buffer)
    { log := restoration.log name
      result :=
        match Text.decode content with
        | some text => .ok text
        | none => .error (.notText content) }

end SchemaDoc.Description
