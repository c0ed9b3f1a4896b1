import SchemaDoc.Console.Rendering
import SchemaDoc.Job.Output

/-!
# Sessions

A session runs jobs for a user: it shows lines on the console, reports the failures that are
expected of bad input, and ends early when it has reported one. Any other failure ends the program.
-/
namespace SchemaDoc.CommandLine

open Console (MarkupFault escape show?)
open Job (JobAction)
open Workspace (Action)

/-- What comes out of a session. -/
inductive Event where
  | logged (entry : LogEntry)
  /-- A line on the standard output. -/
  | shown (line : List Char)
  /-- A line on the error output. -/
  | complained (line : List Char)

/-- A failure that ends the program. -/
inductive Crash where
  | failure (failure : Failure)
  | markup (fault : MarkupFault)

/-- Why a session ended early. -/
inductive Halt where
  | reported
  | crashed (crash : Crash)

/-- A part of a session. -/
abbrev Session := Action Event Halt

/-- Show marked-up text as a line. -/
def tell (event : List Char → Event) (text : List Char) : Session Unit :=
  match show? text with
  | .ok line => Action.note (event line)
  | .error fault => Action.fail (.crashed (.markup fault))

/-- Show marked-up text on the standard output. -/
def say (text : String) : Session Unit :=
  tell .shown text.toList

/-- Report a failure on the error output. -/
def report (failure : Failure) : Session Unit :=
  tell .complained ("[red]error:[/red] ".toList ++ escape failure.message.toList)

/-- Do a job; its result is given on. -/
def attempt {Value : Type} (job : JobAction Value) : Session (Except Failure Value) := fun tree =>
  let ending := job tree
  { tree := ending.tree, notes := ending.notes.map .logged, result := .ok ending.result }

/-- End the program with a failure. -/
def crash {Value : Type} (failure : Failure) : Session Value :=
  Action.fail (.crashed (.failure failure))

/-- Do a job, and end the session if it fails. -/
def require {Value : Type} (job : JobAction Value) : Session Value := do
  match ← attempt job with
  | .ok value => return value
  | .error failure =>
    if failure.isExpected then
      report failure
      Action.fail .reported
    else crash failure

/-- Do a part of a session, and go on even if it ended early; tells whether it did. -/
def endsEarly (part : Session Unit) : Session Bool := fun tree =>
  let ending := part tree
  { tree := ending.tree, notes := ending.notes, result := .ok (!ending.result.isOk) }

namespace Event

/-- The entry that an event logs. -/
def entry? : Event → Option LogEntry
  | .logged entry => some entry
  | _ => none

/-- What an event adds to the standard output. -/
def output : Event → List Char
  | .shown line => line ++ ['\n']
  | _ => []

/-- What an event adds to the error output. -/
def errors : Event → List Char
  | .complained line => line ++ ['\n']
  | _ => []

end Event

end SchemaDoc.CommandLine
