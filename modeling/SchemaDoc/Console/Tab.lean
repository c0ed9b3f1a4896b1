import SchemaDoc.Console.Width
import SchemaDoc.Workspace.Path

/-!
# Tab stops

A tab becomes at least one space, and as many more as lead to the next tab stop. How far a line
has come is measured in columns.
-/
namespace SchemaDoc.Console

open Workspace (joinWith splitAt)

/-- How far tab stops are apart. -/
def tabWidth : Nat := 8

/-- Join the parts of a line from a column on. A tab stood behind every part but the last. -/
def fillParts (column : Nat) : List (List Char) → List Char
  | [] => []
  | [last] => last
  | part :: rest =>
    let spaced := part ++ [' ']
    let reached := column + textWidth spaced
    let filling := (tabWidth - reached % tabWidth) % tabWidth
    spaced ++ List.replicate filling ' ' ++ fillParts (reached + filling) rest

/-- Fill the tabs of a text up with spaces, line by line. -/
def fillTabs (text : List Char) : List Char :=
  joinWith ['\n'] ((splitAt '\n' text).map fun line => fillParts 0 (splitAt '\t' line))

end SchemaDoc.Console
