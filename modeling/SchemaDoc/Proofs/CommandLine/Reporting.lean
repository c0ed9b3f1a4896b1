import SchemaDoc.Proofs.CommandLine.Embedding
import SchemaDoc.Proofs.Description.Legibility

/-!
# What is reported of a written set

Embedding the comments of a written descriptor set ends in one of two ways, whatever the bytes of
the set are: the result is written, or a line says what is wrong. The exceptions are bytes that are
no text where the program works on text, and required fields that are missing where it writes.
-/
namespace SchemaDoc.CommandLine

open Console (show?)
open Description (EmbedError EmbedFlags IsSound embedSet embedSet_foreseen embedSet_nameNotText)
open Descriptor (decode files)
open Job (embedData expected_of_writeOutput readFile replaced_of_writeOutput siblingOf workspaceOf)
open Text (Bytes)
open Workspace (FileTree Path)
open Workspace.Action

variable {setup : Setup} {source output : Path} {flags : EmbedFlags} {numbers : Numbers}
  {tree after : FileTree} {failure : Failure} {data : Bytes}

/-! ### Failures that are expected -/

theorem isExpected_embedding {error : EmbedError} (foreseen : ¬ error.Unforeseen) :
    (Failure.embedding error).isExpected = true := by
  cases error with
  | nameNotText => exact absurd .name foreseen
  | commentNotJoinable => exact absurd .comment foreseen
  | unwritable error => exact absurd (.missing error) foreseen
  | decode | commentNotText => rfl

theorem expected_of_chooseIds (failed : (chooseIds setup numbers tree).result = .error failure) :
    failure.isExpected = true := by
  simp only [chooseIds, Workspace.Action.inspect] at failed
  split at failed <;> cases failed <;> rfl

theorem expected_of_readFile (failed : (readFile source tree).result = .error failure) :
    failure.isExpected = true := by
  obtain ⟨refused, _, rfl⟩ := mapError_eq_error_iff.mp failed
  split <;> rfl

/-- The set that a file holds, if it holds one, is sound. -/
def HoldsSound (tree : FileTree) (source : Path) (flags : EmbedFlags) : Prop :=
  ∀ data set, tree.read source = .ok data → decode .fileSet data = .ok set →
    IsSound flags.joinLines set

/-- None of the numbers that are settled is the one of uninterpreted options. -/
def ChoosesSpare (setup : Setup) (numbers : Numbers) : Prop :=
  ∀ tree ids, (chooseIds setup numbers tree).result = .ok ids → ids.SpareUninterpreted

theorem expected_of_embedStored (sound : HoldsSound tree source flags)
    (spare : ChoosesSpare setup numbers)
    (run : (embedStored setup source output flags numbers).Fails tree failure after) :
    failure.isExpected = true := by
  rcases (isReadOnly_chooseIds setup numbers).fails_bind run with ⟨failed, _⟩ | ⟨ids, chosen, run⟩
  · exact expected_of_chooseIds failed
  rcases (isReadOnly_inspect _).fails_bind run with ⟨failed, _⟩ | ⟨stored, read, run⟩
  · exact expected_of_readFile failed
  rcases (isReadOnly_embedData ids flags stored).fails_bind run with ⟨failed, _⟩ | ⟨_, _, run⟩
  · obtain ⟨error, ended, rfl⟩ := mapError_eq_error_iff.mp failed
    have held : tree.read source = .ok stored := mapError_eq_ok_iff.mp read
    exact isExpected_embedding (embedSet_foreseen (spare tree ids chosen)
      (fun set decoded => sound stored set held decoded) error ended)
  · exact expected_of_writeOutput run

/-! ### The two ways to end -/

theorem replaced_of_embedStored
    (run : (embedStored setup source output flags numbers).Yields tree () after) :
    ∃ ids data out, (chooseIds setup numbers tree).result = .ok ids ∧
      tree.read source = .ok data ∧ (embedSet ids flags data).result = .ok out ∧
        tree.Replaced (output.resolve tree.current) ((siblingOf output).resolve tree.current) out
          after := by
  obtain ⟨ids, data, out, chosen, read, embedded, run⟩ := yields_embedStored_iff.mp run
  exact ⟨ids, data, out, chosen, read, embedded, replaced_of_writeOutput run⟩

/-- Whatever the bytes of a set are, embedding its comments from the command line writes the result
and gives zero, or reports why the job failed and gives one, if nothing is missing from the set and
its files are legible. No failure passes by the report. Of the command line it is asked that its
numbers leave uninterpreted options alone and that the line about the result can be shown. -/
theorem run_embedSet_reports (verbose : Bool) (sound : HoldsSound tree source flags)
    (spare : ChoosesSpare setup numbers)
    (told : ∃ line, show? (wroteFile output).toList = .ok line) :
    let outcome :=
      (Request.command verbose (.embedSet source output flags numbers)).run setup tree
    outcome.crash = none ∧
      ((outcome.status = 0 ∧ ∃ ids data out, (chooseIds setup numbers tree).result = .ok ids ∧
          tree.read source = .ok data ∧ (embedSet ids flags data).result = .ok out ∧
            outcome.tree.content? (output.resolve tree.current) = some out) ∨
        (outcome.status = 1 ∧ ∃ failure line,
          (embedStored setup source output flags numbers tree).result = .error failure ∧
            show? (complaint failure) = .ok line ∧ outcome.errors = line ++ ['\n'])) := by
  obtain ⟨line, shown⟩ := told
  rw [Request.run, run_embedSet]
  rcases yields_or_fails (embedStored setup source output flags numbers) tree
    with ⟨_, run⟩ | ⟨failure, run⟩
  · obtain ⟨status, crash, left⟩ := jobThenLine_done (fun _ => wroteFile output) verbose run shown
    obtain ⟨ids, data, out, chosen, read, embedded, replaced⟩ := replaced_of_embedStored run
    rw [← left] at replaced
    exact ⟨crash, Or.inl ⟨status, ids, data, out, chosen, read, embedded, replaced.content?_same⟩⟩
  · obtain ⟨complained, said, status, crash, errors, _⟩ := jobThenLine_failed
      (fun _ => wroteFile output) verbose run (expected_of_embedStored sound spare run)
    exact ⟨crash, Or.inr ⟨status, failure, complained, run.result, said, errors⟩⟩

/-- A first file whose name is no text ends the program, and nothing is reported. -/
theorem run_embedSet_crashes (verbose : Bool) {ids : Description.Ids}
    {set file : Descriptor.Message} {rest : List Descriptor.Message}
    (chosen : (chooseIds setup numbers tree).result = .ok ids) (read : tree.read source = .ok data)
    (decoded : decode .fileSet data = .ok set) (first : files set = file :: rest)
    (illegible : Text.decode (file.text 1) = none) :
    let outcome :=
      (Request.command verbose (.embedSet source output flags numbers)).run setup tree
    outcome.crash = some (.failure (.embedding .nameNotText)) ∧ outcome.status = 1 ∧
      outcome.errors = [] ∧ outcome.tree = tree := by
  have misread : (embedData ids flags data tree).result = .error (.embedding .nameNotText) :=
    mapError_eq_error_iff.mpr ⟨_, embedSet_nameNotText decoded first illegible, rfl⟩
  have run : (embedStored setup source output flags numbers).Fails tree
      (.embedding .nameNotText) tree := by
    have held : (readFile source tree).result = .ok data := mapError_eq_ok_iff.mpr read
    refine (isReadOnly_chooseIds setup numbers).fails_rest chosen ?_
    refine (isReadOnly_inspect _).fails_rest held ?_
    exact fails_bind_iff.mpr (Or.inl ⟨misread, rfl⟩)
  obtain ⟨status, crash, errors, left⟩ :=
    jobThenLine_crashed (fun _ => wroteFile output) verbose run rfl
  rw [Request.run, run_embedSet]
  exact ⟨crash, status, errors, left⟩

/-! ### A small set -/

/-- A set of one file whose name is a letter. -/
def letterTree : FileTree :=
  workspaceOf [("in.bin", "\n\x03\n\x01a")]

def letterFile : Descriptor.Message :=
  [.text 1 [0x61]]

theorem letterTree_holdsSound :
    HoldsSound letterTree (Path.ofText "in.bin".toList) { joinLines := true } := by
  intro data set read decoded
  have bytes : letterTree.read (Path.ofText "in.bin".toList) =
      .ok [0x0A, 0x03, 0x0A, 0x01, 0x61] := by
    cbv
  cases bytes.symm.trans read
  have one : decode .fileSet [0x0A, 0x03, 0x0A, 0x01, 0x61] = .ok [.message 1 letterFile] := by
    cbv
  cases one.symm.trans decoded
  refine ⟨by cbv, fun file member => ?_⟩
  obtain rfl := List.mem_singleton.mp (show file ∈ [letterFile] from member)
  exact ⟨by cbv, fun _ location located => by cases located⟩

theorem unset_choosesSpare : ChoosesSpare bareSetup fun _ => none := by
  intro tree ids chosen kind number given
  cases (chooseIds_unset rfl tree).symm.trans chosen
  cases given
  decide

/-- A set of one legible file is embedded or what is wrong is reported. -/
theorem run_embedSet_reports_letter :
    HoldsSound letterTree (Path.ofText "in.bin".toList) { joinLines := true } ∧
    ChoosesSpare bareSetup (fun _ => none) ∧
    (∃ line, show? (wroteFile (Path.ofText "out".toList)).toList = .ok line) ∧
    let outcome := (Request.command false (.embedSet (Path.ofText "in.bin".toList)
      (Path.ofText "out".toList) { joinLines := true } fun _ => none)).run bareSetup letterTree
    outcome.crash = none ∧ (outcome.status = 0 ∨ outcome.status = 1) := by
  have told : ∃ line, show? (wroteFile (Path.ofText "out".toList)).toList = .ok line := by
    rw [toList_wroteFile]
    refine Console.show?_wrote ?_
    have pieces : Console.pieces (Path.ofText "out".toList).toText =
        [.plain "out".toList] := by
      cbv
    rw [pieces]
    intro piece member
    cases List.mem_singleton.mp member
    trivial
  obtain ⟨crash, ended⟩ :=
    run_embedSet_reports false letterTree_holdsSound unset_choosesSpare told
  exact ⟨letterTree_holdsSound, unset_choosesSpare, told, crash, ended.imp And.left And.left⟩

end SchemaDoc.CommandLine
