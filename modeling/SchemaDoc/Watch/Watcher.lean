import SchemaDoc.Failure

/-!
# Watching a directory

A watcher is started, waited for and stopped. Starting it makes a task that has not begun yet;
waiting runs the task to its end, one rebuild for each batch of changes; stopping drops the task.
A task that is stopped before it was waited for never begins. A rebuild that fails is logged, and
the next batch is taken all the same.
-/
namespace SchemaDoc.Watch

open Workspace (Path textPrecedes)

/-- What is asked of a watcher. -/
inductive Call where
  | start
  | wait
  | stop
  deriving DecidableEq, Repr

/-- How far the task of a watcher is. -/
inductive Stage where
  | absent
  | pending
  | finished
  deriving DecidableEq, Repr

/-- The paths that changed together. -/
abbrev Batch := List Path

/-- The paths of changes that are told by the texts of their paths. -/
def pathsOf (changes : List (List Char)) : Batch :=
  changes.map Path.ofText

/-- A watcher on a directory. It knows for each rebuild to come whether it fails, and keeps the
paths of every rebuild that it asked for. -/
structure Watcher where
  directory : Path
  batches : List Batch
  failures : List Bool
  stage : Stage := .absent
  rebuilds : List Batch := []
  log : List LogEntry := []

namespace Watcher

/-- The texts of paths, ascending. -/
def sortedTexts (paths : List Path) : List (List Char) :=
  (paths.map Path.toText).mergeSort textPrecedes

/-- Texts in quotes, in brackets. -/
def showTexts (texts : List (List Char)) : String :=
  "[" ++ String.intercalate ", " (texts.map quoted) ++ "]"

/-- The entry about a watch that begins. -/
def startEntry (directory : Path) : LogEntry where
  level := .info
  message := "Watching " ++ directory.display ++ " for schema changes"

/-- The entry about paths that changed together. -/
def changeEntry (paths : Batch) : LogEntry where
  level := .info
  message := "Detected changes in " ++ toString paths.length ++ " schema file(s)"

/-- The entry about a rebuild that failed. -/
def failureEntry (paths : Batch) : LogEntry where
  level := .error
  message := "Rebuild failed for " ++ showTexts (sortedTexts paths)

/-- The entry about a watch that is over. -/
def stopEntry (directory : Path) : LogEntry where
  level := .info
  message := "Stopped watching " ++ directory.display

/-- Take a batch: log it and ask for the rebuild of its paths, each once. The rebuild tells whether
it failed, and that is logged and no more. -/
def takeBatch {Act : Type → Type} [Monad Act] (log : LogEntry → Act Unit)
    (rebuild : Batch → Act Bool) (batch : Batch) : Act Unit := do
  let paths := batch.eraseDups
  log (changeEntry paths)
  if ← rebuild paths then log (failureEntry paths)

/-- Log an entry. -/
def note (watcher : Watcher) (entry : LogEntry) : Watcher :=
  { watcher with log := watcher.log ++ [entry] }

/-- Ask for a rebuild, and learn whether it failed. -/
def ask (paths : Batch) : StateM Watcher Bool := fun watcher =>
  (watcher.failures.headD false,
    { watcher with
      rebuilds := watcher.rebuilds ++ [paths]
      failures := watcher.failures.drop 1 })

/-- Ask for the rebuild that a batch calls for. -/
def rebuild (watcher : Watcher) (batch : Batch) : Watcher :=
  (takeBatch (fun entry => modify fun watcher => watcher.note entry) ask batch watcher).run.2

/-- Do what is asked. -/
def call (watcher : Watcher) (request : Call) : Watcher :=
  match request, watcher.stage with
  | .start, .absent => { watcher with stage := .pending }.note (startEntry watcher.directory)
  | .wait, .pending => { watcher.batches.foldl rebuild watcher with stage := .finished }
  | .stop, .pending | .stop, .finished =>
    { watcher with stage := .absent }.note (stopEntry watcher.directory)
  | _, _ => watcher

/-- Do what is asked, in order. -/
def run (watcher : Watcher) (requests : List Call) : Watcher :=
  requests.foldl call watcher

theorem rebuild_eq (watcher : Watcher) (batch : Batch) :
    watcher.rebuild batch =
      { watcher with
        rebuilds := watcher.rebuilds ++ [batch.eraseDups]
        failures := watcher.failures.drop 1
        log := watcher.log ++ [changeEntry batch.eraseDups] ++
          if watcher.failures.headD false then [failureEntry batch.eraseDups] else [] } := by
  obtain ⟨directory, batches, failures, stage, rebuilds, log⟩ := watcher
  match failures with
  | [] | false :: _ =>
    simp only [List.headD, Bool.false_eq_true, if_false, List.append_nil]
    rfl
  | true :: _ => rfl

/-- Every batch is a rebuild, in order and once. -/
theorem rebuilds_foldl (batches : List Batch) (watcher : Watcher) :
    (batches.foldl rebuild watcher).rebuilds =
      watcher.rebuilds ++ batches.map List.eraseDups := by
  induction batches generalizing watcher with
  | nil => simp
  | cons batch rest ih => simp [List.foldl_cons, ih, rebuild_eq]

/-- Batches do not move a watcher. -/
theorem directory_foldl (batches : List Batch) (watcher : Watcher) :
    (batches.foldl rebuild watcher).directory = watcher.directory := by
  induction batches generalizing watcher with
  | nil => rfl
  | cons batch rest ih => rw [List.foldl_cons, ih, rebuild_eq]

/-- A watcher without a task goes through its batches between a start and a stop. -/
theorem log_round {watcher : Watcher} (idle : watcher.stage = .absent) :
    (watcher.run [.start, .wait, .stop]).log =
      (watcher.batches.foldl rebuild
        ({ watcher with stage := .pending }.note (startEntry watcher.directory))).log ++
        [stopEntry watcher.directory] := by
  simp [run, call, idle, note, directory_foldl]

end Watcher

end SchemaDoc.Watch
