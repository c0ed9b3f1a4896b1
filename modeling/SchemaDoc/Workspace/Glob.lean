import SchemaDoc.Workspace.FileTree

/-!
# File patterns

In a part of a pattern a star stands for any characters, a question mark for one, and brackets
for one of a set. Wildcards do not match a name that starts with a dot unless the part does too.
A part of two stars stands for any directories on the way, hidden ones excepted.
-/
namespace SchemaDoc.Workspace

/-- A piece of a bracket set: a character, or the dash between the ends of a range. -/
inductive SetPiece where
  | char (char : Char)
  | dash
  deriving DecidableEq, Repr

/-- A piece of a name pattern. -/
inductive PatternPiece where
  | many
  | one
  | exactly (char : Char)
  | oneOf (negated : Bool) (ranges : List (Char × Char))
  deriving DecidableEq, Repr

/-- Cut the content of a bracket set at the dashes that make ranges. A dash in first place makes
none, nor does one right after the end of a range. `skip` counts the characters that cannot be
such a dash. -/
def setChunks (skip : Nat) (chunk : List Char) : List Char → List (List Char)
  | [] => [chunk.reverse]
  | char :: rest =>
    match skip with
    | skip + 1 => setChunks skip (char :: chunk) rest
    | 0 =>
      if char == '-' then chunk.reverse :: setChunks 2 [] rest
      else setChunks 0 (char :: chunk) rest

/-- A dash with nothing behind it stands for itself. -/
def closeChunks : List (List Char) → List (List Char)
  | [chunk, []] => [chunk ++ ['-']]
  | chunk :: rest => chunk :: closeChunks rest
  | [] => []

/-- Drop the ranges that hold nothing, together with their ends. -/
def dropEmptyRanges : List (List Char) → List (List Char)
  | [] => []
  | chunk :: rest =>
    match chunk.getLast?, dropEmptyRanges rest with
    | some low, (high :: more) :: others =>
      if high < low then (chunk.dropLast ++ more) :: others else chunk :: (high :: more) :: others
    | _, others => chunk :: others

/-- The pieces of the content of a bracket set. -/
def setPieces (content : List Char) : List SetPiece :=
  let skip := if content.head? == some '!' then 2 else 1
  let chunks := closeChunks (setChunks skip [] content)
  ((dropEmptyRanges chunks).map fun chunk => chunk.map SetPiece.char).intersperse [.dash] |>.flatten

/-- The ranges that pieces say. A dash without both ends stands for itself. -/
def setRanges : List SetPiece → List (Char × Char)
  | .char low :: .dash :: .char high :: rest => (low, high) :: setRanges rest
  | .char char :: rest => (char, char) :: setRanges rest
  | .dash :: rest => ('-', '-') :: setRanges rest
  | [] => []

/-- The pattern of a bracket set with a content. An exclamation mark in front negates it. -/
def setPattern (content : List Char) : PatternPiece :=
  match setPieces content with
  | .char '!' :: pieces => .oneOf true (setRanges pieces)
  | pieces => .oneOf false (setRanges pieces)

/-- Take a character off the front if it is there. -/
def takeIf (char : Char) : List Char → List Char × List Char
  | [] => ([], [])
  | first :: rest => if first == char then ([first], rest) else ([], first :: rest)

theorem takeIf_length (char : Char) (text : List Char) :
    (takeIf char text).2.length ≤ text.length := by
  cases text with
  | nil => simp [takeIf]
  | cons first rest => simp only [takeIf]; split <;> simp

/-- The content of a bracket set and what follows it, if it is closed. A closing bracket in first
place is part of it. -/
def readSet (text : List Char) : Option (List Char × List Char) :=
  let mark := takeIf '!' text
  let first := takeIf ']' mark.2
  match first.2.dropWhile (· != ']') with
  | [] => none
  | _ :: rest => some (mark.1 ++ first.1 ++ first.2.takeWhile (· != ']'), rest)

theorem readSet_length {text content rest : List Char}
    (found : readSet text = some (content, rest)) : rest.length < text.length := by
  simp only [readSet] at found
  split at found
  · simp at found
  next close after same =>
    simp only [Option.some.injEq, Prod.mk.injEq] at found
    have cut := (List.dropWhile_sublist (· != ']')
      (l := (takeIf ']' (takeIf '!' text).2).2)).length_le
    have first := takeIf_length ']' (takeIf '!' text).2
    have mark := takeIf_length '!' text
    rw [same, List.length_cons] at cut
    rw [← found.2]
    omega

/-- The pieces of a name pattern. -/
def patternPieces (text : List Char) : List PatternPiece :=
  match text with
  | [] => []
  | '*' :: rest => .many :: patternPieces rest
  | '?' :: rest => .one :: patternPieces rest
  | '[' :: rest =>
    match _found : readSet rest with
    | some (content, after) => setPattern content :: patternPieces after
    | none => .exactly '[' :: patternPieces rest
  | char :: rest => .exactly char :: patternPieces rest
termination_by text.length
decreasing_by
  · simp
  · simp
  · exact Nat.lt_succ_of_lt (readSet_length ‹_›)
  · simp
  · simp

/-- Whether one character is of a piece. -/
def PatternPiece.admits (piece : PatternPiece) (char : Char) : Bool :=
  match piece with
  | .many | .one => true
  | .exactly wanted => char == wanted
  | .oneOf negated ranges =>
    (ranges.any fun range => range.1 ≤ char && char ≤ range.2) != negated

/-- Whether a test passes here or further on. -/
def passesOnward : List Bool → List Bool
  | [] => []
  | passes :: rest =>
    let onward := passesOnward rest
    (passes || onward.headD false) :: onward

/-- Which ends of a name, from the whole name to the empty one, are of a pattern. -/
def matchingEnds : List PatternPiece → List Char → List Bool
  | [], name => List.replicate name.length false ++ [true]
  | .many :: pieces, name => passesOnward (matchingEnds pieces name)
  | piece :: pieces, name =>
    List.zipWith (fun char passes => piece.admits char && passes) name
      ((matchingEnds pieces name).drop 1) ++ [false]

/-- Whether a name is of the pattern that a text writes. -/
def matchesName (pattern name : List Char) : Bool :=
  (matchingEnds (patternPieces pattern) name).headD false

/-- Whether a text has wildcards. -/
def hasWildcard (text : List Char) : Bool :=
  text.any fun char => char == '*' || char == '?' || char == '['

/-- Whether a name is hidden. -/
def isHidden (name : List Char) : Bool :=
  name.head? == some '.'

/-- The part that stands for any directories on the way. -/
def anyDepth : Part := ['*', '*']

/-- Everything below a path to so many levels, hidden names excepted. -/
def visibleBelow (tree : FileTree) : Nat → Path → List Path
  | 0, _ => []
  | levels + 1, path =>
    ((tree.entries path).filter fun name => !isHidden name).flatMap fun name =>
      path.child name :: visibleBelow tree levels (path.child name)

/-- More levels than any place has. -/
def FileTree.levels (tree : FileTree) : Nat :=
  ((tree.files.map (·.1) ++ tree.directories).map List.length).foldl max 0 + 1

/-- A path that a pattern selects. One that the pattern only ends in any depth at is written with
a slash behind it. -/
structure Selected where
  path : Path
  closed : Bool := false
  deriving DecidableEq, Repr

/-- The text of a selected path. -/
def Selected.text (selected : Selected) : List Char :=
  selected.path.toText ++ if selected.closed then ['/'] else []

/-- What one more part of a pattern selects. What a wildcard finds before the last part has to be
a directory; a part without wildcards has to lead to something. -/
def expandPart (tree : FileTree) (last : Bool) (part : Part) (path : Path) : List Selected :=
  let kept (found : List Path) : List Selected :=
    (if last then found else found.filter tree.isDirectory).map fun path => { path }
  if part == anyDepth then
    { path, closed := true } :: kept (visibleBelow tree tree.levels path)
  else if hasWildcard part then
    kept (((tree.entries path).filter fun name =>
      (isHidden part || !isHidden name) && matchesName part name).map path.child)
  else ([path.child part].filter tree.isThere).map fun path => { path }

/-- What the parts of a pattern select from what was selected before. -/
def expandParts (tree : FileTree) : List Part → List Selected → List Selected
  | [], found => found
  | part :: rest, found =>
    expandParts tree rest (found.flatMap fun selected =>
      expandPart tree rest.isEmpty part selected.path)

/-- The paths of a pattern, each once, in the order of their texts. The parts before the first
wildcard are taken as they are. -/
def expandPattern (tree : FileTree) (pattern : Path) : Except SystemFailure (List Path) :=
  let start : Path := { pattern with parts := pattern.parts.takeWhile (!hasWildcard ·) }
  if start.hasNull then .error { fault := .nullCharacter, path := start }
  else
    let found := expandParts tree (pattern.parts.dropWhile (!hasWildcard ·)) [{ path := start }]
    .ok ((found.mergeSort fun first second => textPrecedes first.text second.text).map
      Selected.path).eraseDups

end SchemaDoc.Workspace
