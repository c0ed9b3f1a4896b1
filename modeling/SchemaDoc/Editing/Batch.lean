import SchemaDoc.Editing.Buffer

/-!
# Batches of edits

Insertions and deletions are staged against one text and applied together, so every position
refers to the text as it was before. An insertion at the start of a deleted stretch lands before
it, insertions at one place keep their order, and bytes deleted twice go once.
-/
namespace SchemaDoc.Editing

open Text (Bytes)

/-- One staged change; positions are byte offsets and may lie outside the buffer. -/
inductive Edit where
  | insertion (position : Int) (text : Bytes)
  | deletion (position length : Int)
  deriving DecidableEq, Repr

/-- Where an edit applies. -/
def Edit.position : Edit → Int
  | .insertion position _ => position
  | .deletion position _ => position

/-- Insertions come before deletions at the same place. -/
def Edit.rank : Edit → Nat
  | .insertion _ _ => 0
  | .deletion _ _ => 1

/-- Whether one edit may be applied before another. -/
def Edit.precedes (first second : Edit) : Bool :=
  first.position < second.position ||
    (first.position == second.position && first.rank ≤ second.rank)

/-- Apply edits that are in order. Everything before `done` has been copied or deleted. -/
def spliceFrom (buffer : Bytes) (done : Nat) : List Edit → Bytes
  | [] => buffer.drop done
  | edit :: rest =>
    let place := edit.position.toNat
    let reached := max done place
    (buffer.take place).drop done ++
      match edit with
      | .insertion _ text => text ++ spliceFrom buffer reached rest
      | .deletion position length =>
        spliceFrom buffer (max reached (position + length).toNat) rest

/-- The buffer after a batch of edits. -/
def splice (buffer : Bytes) (edits : List Edit) : Bytes :=
  spliceFrom buffer 0 (edits.mergeSort Edit.precedes)

/-- A text under edit: its bytes, where their lines start, and the edits staged since they were
last applied, in order. -/
structure Editor where
  buffer : Bytes
  lines : List Nat := lineStarts buffer
  pending : List Edit := []

namespace Editor

/-- Start editing a text. -/
def ofText (text : List Char) : Editor :=
  { buffer := Text.encode text }

/-- Stage an edit. -/
def stage (editor : Editor) (edit : Edit) : Editor :=
  { editor with pending := editor.pending ++ [edit] }

/-- Apply the staged edits. The bytes change even if they no longer write a text, and the lines
are found anew. -/
def apply (editor : Editor) : Editor :=
  let buffer := splice editor.buffer editor.pending
  { buffer, lines := lineStarts buffer }

/-- The text that the bytes write. -/
def text? (editor : Editor) : Option (List Char) :=
  Text.decode editor.buffer

/-- The place of a line and a byte column. -/
def position (editor : Editor) (line column : Int) : Nat :=
  positionFrom editor.buffer (startAmong editor.lines line) column

/-- The place of a line and a display column; there is none if a tab is passed whose width is
zero. -/
def displayPosition? (editor : Editor) (line column tabWidth : Int) : Option Nat :=
  displayPositionFrom? editor.buffer (startAmong editor.lines line) column tabWidth

@[simp] theorem apply_pending (editor : Editor) : editor.apply.pending = [] := rfl

@[simp] theorem stage_pending (editor : Editor) (edit : Edit) :
    (editor.stage edit).pending = editor.pending ++ [edit] := rfl

end Editor

@[simp] theorem spliceFrom_nil (buffer : Bytes) (done : Nat) :
    spliceFrom buffer done [] = buffer.drop done := rfl

/-- An empty batch changes nothing. -/
@[simp] theorem splice_nil (buffer : Bytes) : splice buffer [] = buffer := by
  simp [splice]

end SchemaDoc.Editing
