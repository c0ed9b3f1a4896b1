/-!
# Paths

A path is a list of parts, each a name or a step up, from the working directory or from the root.
Empty parts and single dots are dropped when a path is read; steps up are kept, since only the
files can tell where they lead. Resolving a path does take its steps up.
-/
namespace SchemaDoc.Workspace

/-- One part of a path. -/
abbrev Part := List Char

/-- The place of a file or directory: the names that lead to it from the root. -/
abbrev Place := List Part

/-- A path as it was written. The anchor is empty, or the slash or two that it starts with. -/
structure Path where
  anchor : List Char
  parts : List Part
  deriving DecidableEq, Repr

/-- The part that steps up. -/
def stepUp : Part := ['.', '.']

/-- Cut at every separator. -/
def splitAt (separator : Char) : List Char → List (List Char)
  | [] => [[]]
  | char :: rest =>
    if char == separator then [] :: splitAt separator rest
    else
      match splitAt separator rest with
      | first :: more => (char :: first) :: more
      | [] => [[char]]

/-- Put a separator between texts. -/
def joinWith (separator : List Char) (texts : List (List Char)) : List Char :=
  (texts.intersperse separator).flatten

namespace Path

/-- The slashes that a path starts with; three and more count as one. -/
def anchorOf : List Char → List Char
  | '/' :: '/' :: '/' :: _ => ['/']
  | '/' :: '/' :: _ => ['/', '/']
  | '/' :: _ => ['/']
  | _ => []

/-- Read a path. -/
def ofText (text : List Char) : Path where
  anchor := anchorOf text
  parts := (splitAt '/' text).filter fun part => part != [] && part != ['.']

/-- The text of a path; the working directory is a dot. -/
def toText (path : Path) : List Char :=
  if path.parts.isEmpty && path.anchor.isEmpty then ['.']
  else path.anchor ++ joinWith ['/'] path.parts

/-- The text of a path as a string. -/
def display (path : Path) : String :=
  String.ofList path.toText

/-- Whether a path starts from the root. -/
def isAbsolute (path : Path) : Bool :=
  !path.anchor.isEmpty

/-- Whether a path has a null character, which no name has. -/
def hasNull (path : Path) : Bool :=
  path.toText.contains '\x00'

/-- The last part, if there is one. -/
def name? (path : Path) : Option Part :=
  path.parts.getLast?

/-- A path without its last part. -/
def parent (path : Path) : Path :=
  { path with parts := path.parts.dropLast }

/-- A path with its last part replaced. -/
def withName (path : Path) (name : Part) : Path :=
  { path with parts := path.parts.dropLast ++ [name] }

/-- A path continued by another, unless that starts from the root. -/
def append (path next : Path) : Path :=
  if next.isAbsolute then next else { path with parts := path.parts ++ next.parts }

/-- A path continued by one part. -/
def child (path : Path) (part : Part) : Path :=
  { path with parts := path.parts ++ [part] }

/-- The path of a place. -/
def ofPlace (place : Place) : Path where
  anchor := ['/']
  parts := place

/-- Go where one part leads. -/
def step (place : Place) (part : Part) : Place :=
  if part == stepUp then place.dropLast else place ++ [part]

/-- The place that a path names, taken from a working directory, whatever is there. -/
def resolve (current : Place) (path : Path) : Place :=
  path.parts.foldl step (if path.isAbsolute then [] else current)

/-- The part of one place below another. -/
def below? (root place : Place) : Option Place :=
  if root.isPrefixOf place then some (place.drop root.length) else none

/-- The text of a path below a root; the root itself is a dot. -/
def relativeText (parts : Place) : List Char :=
  (Path.mk [] parts).toText

/-- A path whose first part starts with a tilde starts from a home directory: that of the user
who is named behind the tilde. There is none if the user's home is not known. -/
def expandUser (homeOf : List Char → Option Place) (path : Path) : Option Path :=
  match path.anchor, path.parts with
  | [], ('~' :: user) :: rest =>
    (homeOf user).map fun home => { anchor := ['/'], parts := home ++ rest }
  | _, _ => some path

end Path

/-- The order of texts by code points. -/
def textPrecedes (first second : List Char) : Bool :=
  !decide (second < first)

/-- The order of lists of texts. -/
def textsPrecede (first second : List (List Char)) : Bool :=
  !decide (second < first)

end SchemaDoc.Workspace
