import Mathlib.Data.List.DropRight
import SchemaDoc.Proofs.Editing.Lines
import SchemaDoc.Proofs.Editing.Splice

/-!
# Sessions of editing

Whatever is staged and applied in whatever order, an editor knows where the lines of its bytes
start and holds just the edits that were staged since the last apply. This is kept by every single
request, and an apply keeps it even if the new bytes no longer write a text: nothing is undone
then, the bytes and their lines are the new ones and no edit is left.
-/
namespace SchemaDoc.Editing

open Text (Bytes)

/-- What an editor is asked to do. -/
inductive Request where
  | insert (position : Int) (text : List Char)
  | delete (position length : Int)
  | apply
  deriving DecidableEq, Repr

/-- The edit that a request stages. -/
def Request.edit? : Request → Option Edit
  | .insert position text => some (.insertion position (Text.encode text))
  | .delete position length => some (.deletion position length)
  | .apply => none

/-- The edits that are staged after the last apply. -/
def stagedSince (requests : List Request) : List Edit :=
  (requests.rtakeWhile (· != .apply)).filterMap Request.edit?

namespace Editor

/-- Do what is asked. -/
def request (editor : Editor) (asked : Request) : Editor :=
  match asked.edit? with
  | some edit => editor.stage edit
  | none => editor.apply

/-- Do what is asked, in order. -/
def run (editor : Editor) (requests : List Request) : Editor :=
  requests.foldl request editor

/-- After some requests an editor has the lines of its bytes, and the edits staged since the last
apply. -/
structure Agrees (editor : Editor) (requests : List Request) : Prop where
  lines : editor.lines = lineStarts editor.buffer
  pending : editor.pending = stagedSince requests

theorem agrees_ofText (text : List Char) : (ofText text).Agrees [] :=
  ⟨rfl, rfl⟩

variable {editor : Editor} {requests : List Request}

theorem Agrees.stage (agrees : editor.Agrees requests) {asked : Request} {edit : Edit}
    (staged : asked.edit? = some edit) : (editor.stage edit).Agrees (requests ++ [asked]) := by
  have further : (asked != .apply) = true := by
    cases asked <;> simp_all [Request.edit?]
  refine ⟨agrees.lines, ?_⟩
  rw [stage_pending, agrees.pending, stagedSince, stagedSince, List.rtakeWhile_concat,
    if_pos further, List.filterMap_append]
  simp [staged]

theorem Agrees.request (agrees : editor.Agrees requests) (asked : Request) :
    (editor.request asked).Agrees (requests ++ [asked]) := by
  rw [Editor.request]
  cases staged : asked.edit? with
  | some edit => exact agrees.stage staged
  | none =>
    -- An apply starts over, with the lines of the bytes that it leaves.
    cases asked with
    | apply => exact ⟨rfl, by simp [stagedSince]⟩
    | insert position text => cases staged
    | delete position length => cases staged

theorem agrees_run (text : List Char) (requests : List Request) :
    ((ofText text).run requests).Agrees requests := by
  induction requests using List.reverseRecOn with
  | nil => exact agrees_ofText text
  | append_singleton earlier asked ih =>
    rw [run, List.foldl_append]
    exact ih.request asked

/-- With its own lines an editor finds the places of its buffer. -/
theorem Agrees.position_eq (agrees : editor.Agrees requests) (line column : Int) :
    editor.position line column = Editing.position editor.buffer line column := by
  rw [Editor.position, agrees.lines]
  rfl

end Editor

theorem position_le (buffer : Bytes) (line column : Int) :
    position buffer line column ≤ buffer.length := by
  have low := startOfLine_le buffer line
  rw [position, positionFrom, clampTo]
  omega

theorem position_zero (buffer : Bytes) (line : Int) :
    position buffer line 0 = startOfLine buffer line := by
  simp [position, positionFrom, clampTo]

/-- Whatever is staged and applied, the lines that an editor knows are those of its bytes,
ascending, and the edits that it holds are those staged since the last apply, in order. So places
are found within the buffer, and each line where it starts. One more apply leaves what the edits
make of the bytes, the lines of that, and no edit, whether the new bytes write a text or not. -/
theorem run_agrees (text : List Char) (requests : List Request) :
    let editor := (Editor.ofText text).run requests
    let applied := (Editor.ofText text).run (requests ++ [.apply])
    editor.lines = 0 :: (editor.buffer.idxsOf newline).map (· + 1) ∧
    editor.lines.Pairwise (· < ·) ∧
    editor.pending = stagedSince requests ∧
    (∀ line column, editor.position line column ≤ editor.buffer.length) ∧
    (∀ line : Nat, line < editor.lines.length →
      StartsLine editor.buffer line (editor.position line 0)) ∧
    Sweeps (emittedAt editor.buffer (stagedSince requests)) applied.buffer ∧
    applied.lines = 0 :: (applied.buffer.idxsOf newline).map (· + 1) ∧
    applied.pending = [] := by
  intro editor applied
  have agrees : editor.Agrees requests := Editor.agrees_run text requests
  have after : applied.Agrees (requests ++ [.apply]) := Editor.agrees_run text _
  have spliced : applied.buffer = splice editor.buffer editor.pending := by
    simp [applied, editor, Editor.run, Editor.request, Request.edit?, Editor.apply]
  refine ⟨?_, ?_, agrees.pending, ?_, ?_, ?_, ?_, ?_⟩
  · rw [agrees.lines, lineStarts_eq]
  · rw [agrees.lines]
    exact lineStarts_ascending _
  · intro line column
    rw [agrees.position_eq]
    exact position_le _ _ _
  · intro line listed
    rw [agrees.lines, length_lineStarts] at listed
    rw [agrees.position_eq, position_zero]
    exact startsLine_of_le (Nat.le_of_lt_succ listed)
  · rw [spliced, ← agrees.pending]
    exact splice_sweeps _ _
  · rw [after.lines, lineStarts_eq]
  · rw [after.pending]
    simp [stagedSince]

/-- Half of a character is deleted: the apply fails, and leaves the other half. -/
example :
    let applied := (Editor.ofText ['é', '\n', 'é']).run [.delete 0 1, .apply]
    applied.text? = none ∧ applied.buffer = [0xA9, newline, 0xC3, 0xA9] ∧
      applied.lines = [0, 2] ∧ applied.pending = [] := by
  decide +kernel

end SchemaDoc.Editing
