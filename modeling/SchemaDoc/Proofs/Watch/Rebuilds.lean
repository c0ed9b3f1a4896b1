import Mathlib.Data.List.DropRight
import Mathlib.Data.List.Forall2
import SchemaDoc.Proofs.Distinct
import SchemaDoc.Watch.Watcher

/-!
# What a watcher rebuilds

However a watcher is started, waited for and stopped, and whichever rebuilds fail, it goes through
all its batches once for each task that is waited for before it is stopped. The other calls do
nothing to the rebuilds, and calls that find nothing to do leave the watcher as it is.

The walk over the calls knows what came before: a task exists just when there was a start since
the last stop. What is owed to a task that has not begun is settled by the calls still to come.
-/
namespace SchemaDoc.Watch

open Workspace (Path textPrecedes)

/-! ### Tasks among calls -/

/-- Whether a task exists after some calls: there was a start since the last stop. -/
def hasTask (calls : List Call) : Bool :=
  (calls.rtakeWhile (· != .stop)).contains .start

/-- Whether a wait comes before the next stop. -/
def awaited (later : List Call) : Bool :=
  (later.takeWhile (· != .stop)).contains .wait

/-- How many calls, with some earlier ones before them, are starts that find no task and are
followed by a wait before the next stop. -/
def awaitedStarts (earlier : List Call) : List Call → Nat
  | [] => 0
  | call :: later =>
    (if call = .start ∧ hasTask earlier = false ∧ awaited later = true then 1 else 0) +
      awaitedStarts (earlier ++ [call]) later

@[simp] theorem hasTask_nil : hasTask [] = false := rfl

@[simp] theorem hasTask_start (calls : List Call) : hasTask (calls ++ [.start]) = true := by
  simp [hasTask]

@[simp] theorem hasTask_wait (calls : List Call) :
    hasTask (calls ++ [.wait]) = hasTask calls := by
  simp [hasTask]

@[simp] theorem hasTask_stop (calls : List Call) : hasTask (calls ++ [.stop]) = false := by
  simp [hasTask]

@[simp] theorem awaited_start (later : List Call) : awaited (.start :: later) = awaited later := by
  simp [awaited]

@[simp] theorem awaited_wait (later : List Call) : awaited (.wait :: later) = true := by
  simp [awaited]

@[simp] theorem awaited_stop (later : List Call) : awaited (.stop :: later) = false := by
  simp [awaited]

/-! ### Paths of a batch, and rebuilds that fail -/

/-- The paths of a rebuild are those that some changes tell of, each once. -/
def IsSetOf (paths : Batch) (changes : List (List Char)) : Prop :=
  paths.Nodup ∧ ∀ path, path ∈ paths ↔ ∃ text ∈ changes, Path.ofText text = path

theorem isSetOf_eraseDups (changes : List (List Char)) :
    IsSetOf (pathsOf changes).eraseDups changes := by
  refine ⟨nodup_eraseDups _, fun path => ?_⟩
  rw [List.mem_eraseDups, pathsOf, List.mem_map]

/-- The texts of paths in order. -/
def IsSorted (paths : Batch) (texts : List (List Char)) : Prop :=
  texts.Perm (paths.map Path.toText) ∧
    texts.Pairwise fun first second => textPrecedes first second = true

theorem isSorted_sortedTexts (paths : Batch) : IsSorted paths (Watcher.sortedTexts paths) := by
  refine ⟨List.mergeSort_perm _ _, List.pairwise_mergeSort ?_ ?_ _⟩
  · intro first second third one two
    simp only [textPrecedes, Bool.not_eq_true', decide_eq_false_iff_not] at *
    exact List.le_trans one two
  · intro first second
    simp only [textPrecedes, Bool.or_eq_true, Bool.not_eq_true', decide_eq_false_iff_not]
    exact List.le_total first second

/-- The rebuilds that fail, if each fails as it is given for its turn. -/
def failedOnes (failures : List Bool) (rebuilds : List Batch) : List Batch :=
  (rebuilds.zipIdx.filter fun (_, turn) => failures.getD turn false).map Prod.fst

theorem failedOnes_append (failures : List Bool) (rebuilds : List Batch) (paths : Batch) :
    failedOnes failures (rebuilds ++ [paths]) =
      failedOnes failures rebuilds ++
        if failures.getD rebuilds.length false then [paths] else [] := by
  rw [failedOnes, failedOnes, List.zipIdx_append, List.filter_append, List.map_append]
  congr 1
  cases fails : failures.getD rebuilds.length false <;> simp_all

/-- An entry tells that the rebuild for some paths failed. -/
def TellsFailure (entry : LogEntry) (paths : Batch) : Prop :=
  ∃ texts, IsSorted paths texts ∧
    entry = { level := .error, message := "Rebuild failed for " ++ Watcher.showTexts texts }

/-- The errors of a log. -/
def errors (log : List LogEntry) : List LogEntry :=
  log.filter (·.level = .error)

namespace Watcher

variable {watcher : Watcher} {failures : List Bool}

/-! ### One call -/

/-- Beside the notice of the batch, which is no error, a rebuild that fails has an entry. -/
theorem errors_rebuild (watcher : Watcher) (batch : Batch) :
    errors (watcher.rebuild batch).log =
      errors watcher.log ++
        if watcher.failures.headD false = true then [failureEntry batch.eraseDups] else [] := by
  rw [rebuild_eq]
  cases watcher.failures.headD false <;> simp [errors, changeEntry, failureEntry]

theorem foldl_rebuild_batches (batches : List Batch) (watcher : Watcher) :
    (batches.foldl rebuild watcher).batches = watcher.batches := by
  induction batches generalizing watcher with
  | nil => rfl
  | cons batch rest ih => rw [List.foldl_cons, ih, rebuild_eq]

theorem call_batches (watcher : Watcher) (request : Call) :
    (watcher.call request).batches = watcher.batches := by
  cases request <;> cases stage : watcher.stage <;>
    simp [call, stage, note, foldl_rebuild_batches]

/-- A start makes a task where there is none, a wait finishes one that has not begun, and a stop
leaves none. -/
theorem call_stage (watcher : Watcher) (request : Call) :
    (watcher.call request).stage =
      match request, watcher.stage with
      | .start, .absent => .pending
      | .wait, .pending => .finished
      | .stop, _ => .absent
      | _, stage => stage := by
  cases request <;> cases stage : watcher.stage <;> simp [call, stage, note]

/-- Only a wait for a task that has not begun asks for rebuilds. -/
theorem call_rebuilds (watcher : Watcher) (request : Call) :
    (watcher.call request).rebuilds =
      watcher.rebuilds ++
        if request = .wait ∧ watcher.stage = .pending then watcher.batches.map List.eraseDups
        else [] := by
  cases request <;> cases stage : watcher.stage <;>
    simp [call, stage, note, rebuilds_foldl]

/-- A start beside a task does nothing, nor does a wait or a stop without one. -/
theorem call_idle {request : Call}
    (idle : if request = .start then watcher.stage ≠ .absent else watcher.stage = .absent) :
    watcher.call request = watcher := by
  cases request <;> cases stage : watcher.stage <;> simp_all [call]

/-! ### Many calls -/

/-- Whether the task of a watcher is there agrees with the calls that led to it. -/
def Follows (watcher : Watcher) (calls : List Call) : Prop :=
  watcher.stage = .absent ↔ hasTask calls = false

theorem Follows.call {calls : List Call} (follows : watcher.Follows calls) (request : Call) :
    (watcher.call request).Follows (calls ++ [request]) := by
  unfold Follows at *
  rw [call_stage]
  -- The stage after a call and the start since the last stop change together, call by call.
  cases request <;> cases stage : watcher.stage <;> simp_all

theorem Follows.run {earlier : List Call} (follows : watcher.Follows earlier)
    (calls : List Call) : (watcher.run calls).Follows (earlier ++ calls) := by
  induction calls generalizing watcher earlier with
  | nil => simpa [Watcher.run] using follows
  | cons request later ih =>
    have next := ih (follows.call request)
    rwa [List.append_assoc] at next

/-- How often the batches are still gone through: once for a task that has not begun if it is
waited for, and once for each start to come that makes such a task. -/
def owed (watcher : Watcher) (earlier later : List Call) : Nat :=
  (if watcher.stage = .pending ∧ awaited later = true then 1 else 0) + awaitedStarts earlier later

/-- A call pays what is owed, or leaves it owed. -/
theorem Follows.owed_call {earlier : List Call} (follows : watcher.Follows earlier)
    (request : Call) (later : List Call) :
    watcher.owed earlier (request :: later) =
      (if request = .wait ∧ watcher.stage = .pending then 1 else 0) +
        (watcher.call request).owed (earlier ++ [request]) later := by
  unfold Follows at follows
  rw [owed, owed, call_stage, awaitedStarts]
  -- A wait pays for a task that has not begun. A start that makes a task moves what is owed from
  -- the starts to the task, and a stop drops a task that nothing was owed to.
  cases request <;> cases stage : watcher.stage <;> simp_all [awaited]

theorem Follows.run_rebuilds {earlier : List Call} (follows : watcher.Follows earlier)
    (calls : List Call) :
    (watcher.run calls).rebuilds =
      watcher.rebuilds ++
        (List.replicate (watcher.owed earlier calls)
          (watcher.batches.map List.eraseDups)).flatten := by
  induction calls generalizing watcher earlier with
  | nil => simp [Watcher.run, owed, awaitedStarts, awaited]
  | cons request later ih =>
    have next := ih (follows.call request)
    rw [call_rebuilds, call_batches, List.append_assoc] at next
    rw [follows.owed_call, List.replicate_add, List.flatten_append]
    -- What the first call pays stands before what the later ones pay.
    refine next.trans ?_
    congr 2
    split <;> simp

/-! ### Failures -/

/-- The errors that a watcher has logged tell of the rebuilds that failed, and the outcomes that
are left are those of the rebuilds to come. -/
structure Reports (failures : List Bool) (watcher : Watcher) : Prop where
  left : watcher.failures = failures.drop watcher.rebuilds.length
  told : List.Forall₂ TellsFailure (errors watcher.log) (failedOnes failures watcher.rebuilds)

theorem Reports.rebuild (reports : watcher.Reports failures) (batch : Batch) :
    (watcher.rebuild batch).Reports failures := by
  obtain ⟨left, told⟩ := reports
  -- The next outcome is the one that was given for this turn.
  have turn : watcher.failures.headD false = failures.getD watcher.rebuilds.length false := by
    rw [left, List.headD_eq_head?_getD, List.head?_drop, List.getD_eq_getElem?_getD]
  constructor
  · rw [rebuild_eq, left, List.drop_drop, List.length_append, List.length_singleton]
  · rw [errors_rebuild, rebuild_eq, failedOnes_append, turn]
    apply List.rel_append told
    split
    · exact .cons ⟨_, isSorted_sortedTexts _, rfl⟩ .nil
    · exact .nil

theorem Reports.foldl_rebuild (reports : watcher.Reports failures) (batches : List Batch) :
    (batches.foldl Watcher.rebuild watcher).Reports failures := by
  induction batches generalizing watcher with
  | nil => exact reports
  | cons batch rest ih => exact ih (reports.rebuild batch)

theorem Reports.note (reports : watcher.Reports failures) {entry : LogEntry}
    (harmless : entry.level = .info) (stage : Stage) :
    ({ watcher with stage }.note entry).Reports failures := by
  obtain ⟨left, told⟩ := reports
  exact ⟨left, by simpa [Watcher.note, errors, harmless] using told⟩

theorem Reports.call (reports : watcher.Reports failures) (request : Call) :
    (watcher.call request).Reports failures := by
  cases request <;> cases stage : watcher.stage <;> simp only [Watcher.call, stage]
  case start.absent => exact reports.note rfl _
  case wait.pending =>
    obtain ⟨left, told⟩ := reports.foldl_rebuild watcher.batches
    exact ⟨left, told⟩
  case stop.pending => exact reports.note rfl _
  case stop.finished => exact reports.note rfl _
  all_goals exact reports

theorem Reports.run (reports : watcher.Reports failures) (calls : List Call) :
    (watcher.run calls).Reports failures := by
  induction calls generalizing watcher with
  | nil => exact reports
  | cons request rest ih => exact ih (reports.call request)

end Watcher

/-- Whatever is asked of a watcher, in whatever order, and whichever rebuilds fail: it asks for
one rebuild for each batch of changes, in order and with each path once, as often as there are
starts that find no task and are waited for before the next stop. Each rebuild that fails is logged
once, in order, and nothing else is logged as an error. A start beside a task does nothing, nor
does a wait or a stop without one. -/
theorem run_rebuilds_awaited (directory : Path) (batches : List (List (List Char)))
    (failures : List Bool) (calls : List Call) :
    let fresh : Watcher := { directory, batches := batches.map pathsOf, failures }
    let reached := fresh.run calls
    (∃ round, List.Forall₂ IsSetOf round batches ∧
      reached.rebuilds = (List.replicate (awaitedStarts [] calls) round).flatten) ∧
    List.Forall₂ TellsFailure (errors reached.log) (failedOnes failures reached.rebuilds) ∧
    (hasTask calls = true → fresh.run (calls ++ [.start]) = reached) ∧
    (hasTask calls = false →
      fresh.run (calls ++ [.wait]) = reached ∧ fresh.run (calls ++ [.stop]) = reached) := by
  intro fresh reached
  have follows : fresh.Follows [] := by simp [Watcher.Follows, fresh]
  have reports : fresh.Reports failures := ⟨rfl, .nil⟩
  have stage : reached.stage = .absent ↔ hasTask calls = false := follows.run calls
  have further (request : Call) : fresh.run (calls ++ [request]) = reached.call request := by
    simp [Watcher.run, reached]
  refine ⟨⟨batches.map fun changes => (pathsOf changes).eraseDups, ?_, ?_⟩,
    (reports.run calls).told, ?_, ?_⟩
  · rw [List.forall₂_map_left_iff, List.forall₂_same]
    exact fun changes _ => isSetOf_eraseDups changes
  · -- Nothing is owed at first, so what is rebuilt is owed to the starts alone.
    have rebuilds := follows.run_rebuilds calls
    simpa [Watcher.owed, fresh, Function.comp_def] using rebuilds
  · intro present
    rw [further]
    exact Watcher.call_idle (by simp [stage, present])
  · intro absent
    rw [further, further]
    exact ⟨Watcher.call_idle (by simp [stage, absent]), Watcher.call_idle (by simp [stage, absent])⟩

example : awaitedStarts [] [.start, .stop, .start, .start, .wait, .wait] = 1 := by decide

end SchemaDoc.Watch
