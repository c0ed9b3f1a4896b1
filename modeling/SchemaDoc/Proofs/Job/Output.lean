import SchemaDoc.Job.Output
import SchemaDoc.Proofs.Workspace.Action
import SchemaDoc.Proofs.Workspace.Sibling

/-!
# What writing a result leaves behind

Making the directories above a result changes no file. A result that is written by way of a
sibling is there as a whole or not at all, and the sibling is gone again, unless the path of the
result is one that no file can be moved to.
-/
namespace SchemaDoc.Job

open Text (Bytes)
open Workspace (FileTree Part Path stepUp)
open Workspace.Action

variable {tree after : FileTree} {path : Path} {content : Bytes} {failure : Failure}

theorem yields_changeFiles_iff {step : FileTree → Except Workspace.SystemFailure FileTree} :
    (changeFiles step).Yields tree () after ↔ step tree = .ok after := by
  rw [changeFiles, yields_change_iff, mapError_eq_ok_iff]

/-- A change that the file system refuses leaves the files alone. -/
theorem fails_changeFiles {step : FileTree → Except Workspace.SystemFailure FileTree}
    (run : (changeFiles step).Fails tree failure after) :
    (∃ refusal, step tree = .error refusal) ∧ tree = after := by
  obtain ⟨refused, same⟩ := fails_change_iff.mp run
  cases stepped : step tree with
  | error refusal => exact ⟨⟨refusal, rfl⟩, same⟩
  | ok changed => simp [stepped, Except.mapError] at refused

theorem sameFiles_makeParents (tree : FileTree) (path : Path) :
    tree.SameFiles (makeParents path tree).tree :=
  FileTree.sameFiles_ensureDirectories tree path.parent

theorem wrote_of_writeFile (run : (writeFile path content).Yields tree () after) :
    tree.Wrote (path.resolve tree.current) content after := by
  -- The directories above are made in between, which moves no place and changes no file.
  obtain ⟨_, _, ⟨_, rfl⟩, run⟩ := yields_bind_iff.mp run
  have parents := sameFiles_makeParents tree path
  have written := yields_changeFiles_iff.mp run
  rw [← parents.current]
  exact parents.wrote (FileTree.wrote_of_write written)

/-! ### By way of a sibling -/

/-- The path of the sibling that a result is written to first. -/
def siblingOf (path : Path) : Path :=
  path.withName (path.name?.getD [] ++ siblingSuffix)

theorem siblingSuffix_ne_nil : siblingSuffix ≠ [] := by
  decide

theorem append_siblingSuffix_ne (name : Part) : name ++ siblingSuffix ≠ stepUp := by
  intro same
  have length := congrArg List.length same
  have long : siblingSuffix.length = 8 := rfl
  simp [long, stepUp] at length

theorem siblingOf_resolve_ne (path : Path) (current : Workspace.Place) :
    path.resolve current ≠ (siblingOf path).resolve current := by
  cases named : path.name? with
  | none =>
    -- The path names the working directory or the root, and the sibling would be below.
    have bare : path.parts = [] := List.getLast?_eq_none_iff.mp named
    have above : path.parent.resolve current = path.resolve current := by
      simp [Path.resolve, Path.parent, Path.isAbsolute, bare]
    have proper := append_siblingSuffix_ne []
    rw [siblingOf, Path.resolve_withName, above, named, Option.getD_none, Path.step,
      if_neg (by simpa using proper)]
    simp
  | some name =>
    have apart := Path.resolve_append_ne current path siblingSuffix_ne_nil
      (append_siblingSuffix_ne name)
    rw [Path.withName_name named] at apart
    rw [siblingOf, named, Option.getD_some]
    exact apart.symm

theorem replaced_of_writeOutput (run : (writeOutput path content).Yields tree () after) :
    tree.Replaced (path.resolve tree.current) ((siblingOf path).resolve tree.current) content
      after := by
  obtain ⟨_, made, ⟨_, left⟩, run⟩ := yields_bind_iff.mp run
  have parents := sameFiles_makeParents tree path
  rw [left] at parents
  split at run
  · cases not_yields_fail run
  next name named =>
    obtain ⟨_, between, written, moved⟩ := yields_bind_iff.mp run
    have written := yields_changeFiles_iff.mp written
    have moved : between.moveFile (path.withName (name ++ siblingSuffix)) path = .ok after :=
      yields_changeFiles_iff.mp moved
    rw [siblingOf, named, Option.getD_some, ← parents.current]
    rcases FileTree.move_longer siblingSuffix_ne_nil (append_siblingSuffix_ne name) named written
      with ⟨last, ended, replaced⟩ | ⟨⟨_, refused⟩, _⟩
    · cases ended.symm.trans moved
      exact parents.replaced replaced
    · cases refused.symm.trans moved

/-- What may be left where a result was not written: all files as they were, and at most the
sibling besides, which holds the result, if the path of the result is a step up or leads to a
directory. -/
inductive Spares (tree : FileTree) (path : Path) (content : Bytes) (after : FileTree) : Prop
  | untouched (same : tree.SameFiles after)
  | sibling (wrote : tree.Wrote ((siblingOf path).resolve tree.current) content after)
      (refused : path.name? = some stepUp ∨ after.isDirectory path = true)

theorem Spares.sameSurroundings (spares : Spares tree path content after) :
    tree.SameSurroundings after := by
  cases spares with
  | untouched same => exact same.toSameSurroundings
  | sibling wrote _ => exact wrote.toSameSurroundings

/-- What was at the path of the result before is there still. -/
theorem Spares.content?_eq (spares : Spares tree path content after) :
    after.content? (path.resolve tree.current) = tree.content? (path.resolve tree.current) := by
  cases spares with
  | untouched same => exact same.content? _
  | sibling wrote _ => exact wrote.content?_ne _ (siblingOf_resolve_ne path tree.current)

theorem spares_of_writeOutput (run : (writeOutput path content).Fails tree failure after) :
    Spares tree path content after := by
  have parents := sameFiles_makeParents tree path
  rcases fails_bind_iff.mp run with ⟨_, rfl⟩ | ⟨_, made, ⟨_, left⟩, run⟩
  · exact .untouched parents
  · rw [left] at parents
    split at run
    · obtain ⟨_, rfl⟩ := fails_fail_iff.mp run
      exact .untouched parents
    next name named =>
      rcases fails_bind_iff.mp run with stopped | ⟨_, between, written, refused⟩
      · obtain ⟨_, rfl⟩ := fails_changeFiles stopped
        exact .untouched parents
      · -- The sibling has been written, and cannot be moved.
        have written := yields_changeFiles_iff.mp written
        obtain ⟨⟨refusal, stuck⟩, rfl⟩ := fails_changeFiles refused
        have sibling := parents.wrote (FileTree.wrote_of_write written)
        have beside : siblingOf path = path.withName (name ++ siblingSuffix) := by
          rw [siblingOf, named, Option.getD_some]
        rw [parents.current, ← beside] at sibling
        rcases FileTree.move_longer siblingSuffix_ne_nil (append_siblingSuffix_ne name) named
          written with ⟨last, ended, _⟩ | ⟨_, up | directory⟩
        · cases ended.symm.trans stuck
        · exact .sibling sibling (Or.inl (by rw [named, up]))
        · exact .sibling sibling (Or.inr directory)

/-! ### Refusals -/

theorem expected_of_changeFiles {step : FileTree → Except Workspace.SystemFailure FileTree}
    (run : (changeFiles step).Fails tree failure after) : failure.isExpected = true := by
  obtain ⟨refused, _⟩ := fails_change_iff.mp run
  obtain ⟨_, _, rfl⟩ := mapError_eq_error_iff.mp refused
  rfl

/-- Whatever keeps a result from being written is expected of bad input. -/
theorem expected_of_writeOutput (run : (writeOutput path content).Fails tree failure after) :
    failure.isExpected = true := by
  rcases fails_bind_iff.mp run with ⟨refused, _⟩ | ⟨_, made, _, run⟩
  · obtain ⟨_, _, rfl⟩ := mapError_eq_error_iff.mp refused
    rfl
  · split at run
    · obtain ⟨rfl, _⟩ := fails_fail_iff.mp run
      rfl
    · rcases fails_bind_iff.mp run with stopped | ⟨_, _, _, stopped⟩
      · exact expected_of_changeFiles stopped
      · exact expected_of_changeFiles stopped

/-! ### Small workspaces -/

/-- A workspace with these files in and below its working directory. -/
def workspaceOf (files : List (String × String)) : FileTree :=
  files.foldl
    (fun tree file =>
      tree.putFile ((Path.ofText file.1.toList).resolve tree.current) (Text.encode file.2.toList))
    { current := [['w']], home := [['w']] }

end SchemaDoc.Job
