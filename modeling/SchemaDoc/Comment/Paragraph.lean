import SchemaDoc.Text.Blank

/-!
# Joining hard-wrapped paragraphs

Prose that was wrapped by hand is joined: a line break inside a paragraph becomes a space, and
the blank lines between two paragraphs become one line break. A stretch of blanks parts two
paragraphs when it holds two line breaks.
-/
namespace SchemaDoc.Comment

open Text (isBlank strip)

/-- The blanks that go when the line break beside them does. -/
def isLinePad (char : Char) : Bool :=
  char == ' ' || char == '\t' || char == '\r' || char == '\x0c' || char == '\x0b'

/-- What follows the last line break among the blanks that the text starts with, if there is
one. -/
def afterBlankLines : List Char → Option (List Char)
  | [] => none
  | char :: rest =>
    if isBlank char then
      match afterBlankLines rest with
      | some after => some after
      | none => if char == '\n' then some rest else none
    else none

theorem afterBlankLines_length {text after : List Char}
    (found : afterBlankLines text = some after) :
    after.length < text.length := by
  induction text generalizing after with
  | nil => simp [afterBlankLines] at found
  | cons char rest ih =>
    simp only [afterBlankLines] at found
    split at found
    · split at found
      next inner same =>
        simp only [Option.some.injEq] at found
        subst found
        exact Nat.lt_succ_of_lt (ih same)
      · split at found
        · simp only [Option.some.injEq] at found
          simp [found]
        · simp at found
    · simp at found

/-- Cut a text at its blank lines. -/
def paragraphs (text : List Char) : List (List Char) :=
  go [] text
where
  /-- `read` holds the open paragraph, last character first. -/
  go (read : List Char) : List Char → List (List Char)
    | [] => [read.reverse]
    | char :: rest =>
      if char == '\n' then
        match _found : afterBlankLines rest with
        | some after => read.reverse :: go [] after
        | none => go (char :: read) rest
      else go (char :: read) rest
  termination_by text => text.length
  decreasing_by
    · exact Nat.lt_succ_of_lt (afterBlankLines_length ‹_›)
    · simp
    · simp

/-- Replace each line break and the padding on both sides of it by one space. -/
def joinBreaks (text : List Char) : List Char :=
  go [] text
where
  /-- `pad` holds the padding just read, last character first. -/
  go (pad : List Char) : List Char → List Char
    | [] => pad.reverse
    | char :: rest =>
      if char == '\n' then ' ' :: skip rest
      else if isLinePad char then go (char :: pad) rest
      else pad.reverse ++ char :: go [] rest
  /-- Drop the padding that follows a line break. -/
  skip : List Char → List Char
    | [] => []
    | char :: rest =>
      if isLinePad char then skip rest
      else if char == '\n' then ' ' :: skip rest
      else char :: go [] rest

/-- Join the lines of each paragraph of a comment, one line a paragraph. -/
def joinLines (comment : List Char) : List Char :=
  ((paragraphs (strip comment)).map fun paragraph =>
    joinBreaks (strip paragraph)).intersperse ['\n']
    |>.flatten

end SchemaDoc.Comment
