import SchemaDoc.Log
import SchemaDoc.Workspace.FileTree

/-!
# Actions on a workspace

An action reads and changes the files of a workspace, takes notes, and ends with a value or an
error. What it changed and noted before an error stays as it is.
-/
namespace SchemaDoc.Workspace

/-- How an action ended: the files as it left them, its notes in order, and its result. -/
structure Ending (Note Error Value : Type) where
  tree : FileTree
  notes : List Note
  result : Except Error Value

/-- Something done to the files of a workspace. -/
def Action (Note Error Value : Type) : Type :=
  FileTree → Ending Note Error Value

namespace Action

variable {Note Error Value Next : Type}

/-- Do nothing and end with a value. -/
protected def pure (value : Value) : Action Note Error Value :=
  fun tree => { tree, notes := [], result := .ok value }

/-- Do nothing and end with an error. -/
def fail (error : Error) : Action Note Error Value :=
  fun tree => { tree, notes := [], result := .error error }

/-- Go on with the value on the files as they are then, unless there was an error. -/
protected def bind (first : Action Note Error Value) (next : Value → Action Note Error Next) :
    Action Note Error Next :=
  fun tree =>
    let ending := first tree
    match ending.result with
    | .error error => { tree := ending.tree, notes := ending.notes, result := .error error }
    | .ok value =>
      let rest := next value ending.tree
      { rest with notes := ending.notes ++ rest.notes }

instance : Monad (Action Note Error) where
  pure := Action.pure
  bind := Action.bind

/-- Take one note. -/
def note (entry : Note) : Action Note Error Unit :=
  fun tree => { tree, notes := [entry], result := .ok () }

/-- Look at the files. -/
def files : Action Note Error FileTree :=
  fun tree => { tree, notes := [], result := .ok tree }

/-- A result that the files decide. -/
def inspect (look : FileTree → Except Error Value) : Action Note Error Value :=
  fun tree => { tree, notes := [], result := look tree }

/-- Change the files, or leave them as they are and fail. -/
def change (step : FileTree → Except Error FileTree) : Action Note Error Unit :=
  fun tree =>
    match step tree with
    | .ok changed => { tree := changed, notes := [], result := .ok () }
    | .error error => { tree, notes := [], result := .error error }

/-- A logged computation as an action that leaves the files alone. -/
def ofLogged (computation : Logged Error Value) : Action LogEntry Error Value :=
  fun tree => { tree, notes := computation.log, result := computation.result }

/-- A chain ends with a value just when both of its parts do. -/
theorem bind_result_ok_iff (first : Action Note Error Value)
    (next : Value → Action Note Error Next) (tree : FileTree) (last : Next) :
    (first.bind next tree).result = .ok last ↔
      ∃ value, (first tree).result = .ok value ∧
        (next value (first tree).tree).result = .ok last := by
  cases ended : (first tree).result <;> simp [Action.bind, ended]

end Action

end SchemaDoc.Workspace
