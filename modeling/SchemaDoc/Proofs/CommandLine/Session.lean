import SchemaDoc.CommandLine.Run
import SchemaDoc.Proofs.Console.Label
import SchemaDoc.Proofs.Workspace.Action

/-!
# How sessions end

A session that requires a job goes on with its value, or reports its failure and ends, or ends the
program, and nothing that is said to the user changes a file. Reporting itself never fails.
-/
namespace SchemaDoc.CommandLine

open Console (MarkupFault escape show? show?_complaint)
open Job (JobAction)
open Workspace (Action Ending FileTree Path)
open Workspace.Action (Fails Yields isReadOnly_fail isReadOnly_note)

/-- The marked-up text that a failure is reported with. -/
def complaint (failure : Failure) : List Char :=
  "[red]error:[/red] ".toList ++ escape failure.message.toList

theorem report_eq (failure : Failure) :
    ∃ line, show? (complaint failure) = .ok line ∧
      report failure = Action.note (.complained line) := by
  obtain ⟨line, shown⟩ := show?_complaint failure.message.toList
  refine ⟨line, shown, ?_⟩
  rw [report, tell, shown]

theorem say_shown {text : String} {line : List Char} (shown : show? text.toList = .ok line) :
    say text = Action.note (.shown line) := by
  rw [say, tell, shown]

theorem say_unshown {text : String} {fault : MarkupFault}
    (stuck : show? text.toList = .error fault) :
    say text = Action.fail (.crashed (.markup fault)) := by
  rw [say, tell, stuck]

/-- What is said changes no file. -/
theorem isReadOnly_say (text : String) : (say text).IsReadOnly := by
  cases shown : show? text.toList with
  | ok line => rw [say_shown shown]; exact isReadOnly_note _
  | error fault => rw [say_unshown shown]; exact isReadOnly_fail _

theorem isReadOnly_report (failure : Failure) : (report failure).IsReadOnly := by
  obtain ⟨line, _, reported⟩ := report_eq failure
  rw [reported]
  exact isReadOnly_note _

/-- The line about a file that was written. -/
def wroteFile (path : Path) : String :=
  "[green]Wrote[/green] " ++ path.display

theorem toList_wroteFile (path : Path) :
    (wroteFile path).toList = "[green]Wrote[/green] ".toList ++ path.toText := by
  have text : path.display.toList = path.toText := String.toList_ofList
  exact String.toList_append.trans (congrArg _ text)

theorem sayWritten_single (path : Path) : sayWritten [path] = say (wroteFile path) := by
  have rest : ∀ action : Session Unit, (action >>= fun _ => pure ()) = action := by
    intro action
    funext tree
    rcases same : action tree with ⟨after, notes, result⟩
    cases result <;> simp [bind, Action.bind, pure, Action.pure, same]
  rw [sayWritten, sayWritten]
  exact rest _

/-! ### Requiring a job -/

section Require

variable {Value : Type} {job : JobAction Value} {tree after : FileTree} {value : Value}
  {failure : Failure}

theorem require_yields (run : job.Yields tree value after) :
    require job tree =
      { tree := after, notes := (job tree).notes.map .logged, result := .ok value } := by
  obtain ⟨result, rfl⟩ := run
  simp [require, attempt, bind, Action.bind, pure, Action.pure, result]

/-- A failure that is expected of bad input is reported, and that ends the session. -/
theorem require_reported (run : job.Fails tree failure after)
    (expected : failure.isExpected = true) :
    ∃ line, show? (complaint failure) = .ok line ∧
      require job tree =
        { tree := after
          notes := (job tree).notes.map .logged ++ [.complained line]
          result := .error .reported } := by
  obtain ⟨result, rfl⟩ := run
  obtain ⟨line, shown, reported⟩ := report_eq failure
  refine ⟨line, shown, ?_⟩
  simp [require, attempt, bind, Action.bind, result, expected, reported, Action.note, Action.fail]

theorem require_crashed (run : job.Fails tree failure after)
    (unexpected : failure.isExpected = false) :
    require job tree =
      { tree := after
        notes := (job tree).notes.map .logged
        result := .error (.crashed (.failure failure)) } := by
  obtain ⟨result, rfl⟩ := run
  simp [require, attempt, bind, Action.bind, result, unexpected, crash, Action.fail]

/-! ### A job with a closing line -/

/-- Do a job, and say that it is done. -/
def jobThenLine (job : JobAction Value) (closing : Value → String) : Session Unit := do
  let value ← require job
  say (closing value)

/-- A failure that is expected of bad input is reported, and the files stay as the job left
them. -/
theorem jobThenLine_failed (closing : Value → String) (verbose : Bool)
    (run : job.Fails tree failure after) (expected : failure.isExpected = true) :
    ∃ line, show? (complaint failure) = .ok line ∧
      let outcome := Outcome.ofEnding verbose (jobThenLine job closing tree)
      outcome.status = 1 ∧ outcome.crash = none ∧ outcome.errors = line ++ ['\n'] ∧
        outcome.tree = after := by
  obtain ⟨line, shown, required⟩ := require_reported run expected
  refine ⟨line, shown, ?_⟩
  simp [jobThenLine, bind, Action.bind, required, Outcome.ofEnding, Event.errors,
    List.flatMap_map]

/-- Any other failure ends the program, and nothing is reported. -/
theorem jobThenLine_crashed (closing : Value → String) (verbose : Bool)
    (run : job.Fails tree failure after) (unexpected : failure.isExpected = false) :
    let outcome := Outcome.ofEnding verbose (jobThenLine job closing tree)
    outcome.status = 1 ∧ outcome.crash = some (.failure failure) ∧ outcome.errors = [] ∧
      outcome.tree = after := by
  simp [jobThenLine, bind, Action.bind, require_crashed run unexpected, Outcome.ofEnding,
    Event.errors, List.flatMap_map]

theorem jobThenLine_done (closing : Value → String) (verbose : Bool) {line : List Char}
    (run : job.Yields tree value after) (shown : show? (closing value).toList = .ok line) :
    let outcome := Outcome.ofEnding verbose (jobThenLine job closing tree)
    outcome.status = 0 ∧ outcome.crash = none ∧ outcome.tree = after := by
  simp [jobThenLine, bind, Action.bind, require_yields run, say_shown shown, Action.note,
    Outcome.ofEnding]

theorem jobThenLine_unshown (closing : Value → String) (verbose : Bool) {fault : MarkupFault}
    (run : job.Yields tree value after) (stuck : show? (closing value).toList = .error fault) :
    let outcome := Outcome.ofEnding verbose (jobThenLine job closing tree)
    outcome.status = 1 ∧ outcome.crash = some (.markup fault) ∧ outcome.tree = after := by
  simp [jobThenLine, bind, Action.bind, require_yields run, say_unshown stuck, Action.fail,
    Outcome.ofEnding]

end Require

end SchemaDoc.CommandLine
