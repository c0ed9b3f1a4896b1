import SchemaDoc.Proofs.CommandLine.Session
import SchemaDoc.Proofs.Description.Members
import SchemaDoc.Proofs.Job.Output

/-!
# Commands that embed and fail

Up to the writing of its result, a job that embeds only looks at the files. So when it fails, the
writing has failed, or nothing has been changed at all. Telling the user of the result comes last
and changes nothing either.
-/
namespace SchemaDoc.CommandLine

open Compile (Compiler)
open Description (EmbedFlags Ids embedSet embedSet_ok_iff standardNumber)
open Job (JobAction Spares embedData embedFiles readFile selectAll siblingOf
  spares_of_writeOutput workspaceOf writeOutput)
open Text (Bytes)
open Workspace (Action FileTree Path stepUp)
open Workspace.Action

variable {setup : Setup} {patterns : List Word} {source output : Path} {includes : List Path}
  {flags : EmbedFlags} {numbers : Numbers} {tree after : FileTree} {failure : Failure}

/-! ### Jobs that embed -/

theorem isReadOnly_chooseIds (setup : Setup) (numbers : Numbers) :
    (chooseIds setup numbers).IsReadOnly :=
  isReadOnly_inspect _

theorem isReadOnly_embedData (ids : Ids) (flags : EmbedFlags) (data : Bytes) :
    (embedData ids flags data).IsReadOnly :=
  isReadOnly_ofLogged _

theorem isReadOnly_embedFiles (compiler : Compiler) (files : List Path) (ids : Ids)
    (flags : EmbedFlags) : (embedFiles compiler files ids flags).IsReadOnly :=
  (isReadOnly_inspect _).bind fun data =>
    (isReadOnly_note _).bind fun _ => isReadOnly_embedData ids flags data

/-- What a command that embeds makes of the files as they are: the descriptor set with the comments
embedded, which it is to write. -/
inductive Command.Makes (setup : Setup) (tree : FileTree) : Command → Bytes → Prop
  | embed {patterns : List Word} {output : Path} {includes : List Path} {flags : EmbedFlags}
      {numbers : Numbers} {ids : Ids} {files : List Path} {content : Bytes}
      (chosen : (chooseIds setup numbers tree).result = .ok ids)
      (selected : selectAll tree patterns = .ok files)
      (embedded : (embedFiles (setup.compilerFor includes) files ids flags tree).result =
        .ok content) :
      Makes setup tree (.embed patterns output includes flags numbers) content
  | embedSet {source output : Path} {flags : EmbedFlags} {numbers : Numbers} {ids : Ids}
      {data content : Bytes} (chosen : (chooseIds setup numbers tree).result = .ok ids)
      (read : tree.read source = .ok data)
      (embedded : (Description.embedSet ids flags data).result = .ok content) :
      Makes setup tree (.embedSet source output flags numbers) content

/-- What a command that embeds may leave where it failed: all files as they were, or what a result
that was made and not written leaves. -/
def Command.Leaves (setup : Setup) (tree : FileTree) (command : Command) (output : Path)
    (after : FileTree) : Prop :=
  tree.SameFiles after ∨ ∃ content, command.Makes setup tree content ∧
    Spares tree output content after

theorem leaves_of_embedPatterns
    (run : (embedPatterns setup patterns output includes flags numbers).Fails tree failure after) :
    (Command.embed patterns output includes flags numbers).Leaves setup tree output after := by
  rcases (isReadOnly_chooseIds setup numbers).fails_bind run with ⟨_, rfl⟩ | ⟨ids, chosen, run⟩
  · exact Or.inl (.refl tree)
  rcases (isReadOnly_inspect _).fails_bind run with ⟨_, rfl⟩ | ⟨files, selected, run⟩
  · exact Or.inl (.refl tree)
  rcases (isReadOnly_embedFiles _ files ids flags).fails_bind run
    with ⟨_, rfl⟩ | ⟨content, embedded, run⟩
  · exact Or.inl (.refl tree)
  -- After the writing the number of files is given, which does not fail.
  rcases fails_bind_iff.mp run with stopped | ⟨_, _, _, run⟩
  · exact Or.inr ⟨content, .embed chosen selected embedded, spares_of_writeOutput stopped⟩
  · cases not_fails_pure run

theorem leaves_of_embedStored
    (run : (embedStored setup source output flags numbers).Fails tree failure after) :
    (Command.embedSet source output flags numbers).Leaves setup tree output after := by
  rcases (isReadOnly_chooseIds setup numbers).fails_bind run with ⟨_, rfl⟩ | ⟨ids, chosen, run⟩
  · exact Or.inl (.refl tree)
  rcases (isReadOnly_inspect _).fails_bind run with ⟨_, rfl⟩ | ⟨stored, read, run⟩
  · exact Or.inl (.refl tree)
  rcases (isReadOnly_embedData ids flags stored).fails_bind run
    with ⟨_, rfl⟩ | ⟨content, embedded, run⟩
  · exact Or.inl (.refl tree)
  exact Or.inr ⟨content,
    .embedSet chosen (mapError_eq_ok_iff.mp read) (mapError_eq_ok_iff.mp embedded),
    spares_of_writeOutput run⟩

/-- Where a written set is embedded, the writing of the result tells what becomes of the files. -/
theorem yields_embedStored_iff :
    (embedStored setup source output flags numbers).Yields tree () after ↔
      ∃ ids data out, (chooseIds setup numbers tree).result = .ok ids ∧
        tree.read source = .ok data ∧ (embedSet ids flags data).result = .ok out ∧
          (writeOutput output out).Yields tree () after := by
  constructor
  · intro run
    obtain ⟨ids, chosen, run⟩ := (isReadOnly_chooseIds setup numbers).yields_bind_iff.mp run
    obtain ⟨data, read, run⟩ := (isReadOnly_inspect _).yields_bind_iff.mp run
    obtain ⟨out, embedded, run⟩ := (isReadOnly_embedData ids flags data).yields_bind_iff.mp run
    exact ⟨ids, data, out, chosen, mapError_eq_ok_iff.mp read, mapError_eq_ok_iff.mp embedded, run⟩
  · rintro ⟨ids, data, out, chosen, read, embedded, run⟩
    refine (isReadOnly_chooseIds setup numbers).yields_bind_iff.mpr ⟨ids, chosen, ?_⟩
    refine (isReadOnly_inspect _).yields_bind_iff.mpr ⟨data, mapError_eq_ok_iff.mpr read, ?_⟩
    exact (isReadOnly_embedData ids flags data).yields_bind_iff.mpr
      ⟨out, mapError_eq_ok_iff.mpr embedded, run⟩

theorem fails_embedStored_of_write {ids : Ids} {data out : Bytes}
    (chosen : (chooseIds setup numbers tree).result = .ok ids) (read : tree.read source = .ok data)
    (embedded : (embedSet ids flags data).result = .ok out)
    (run : (writeOutput output out).Fails tree failure after) :
    (embedStored setup source output flags numbers).Fails tree failure after := by
  have held : (readFile source tree).result = .ok data := mapError_eq_ok_iff.mpr read
  have stored : (embedData ids flags data tree).result = .ok out := mapError_eq_ok_iff.mpr embedded
  refine (isReadOnly_chooseIds setup numbers).fails_rest chosen ?_
  refine (isReadOnly_inspect _).fails_rest held ?_
  exact (isReadOnly_embedData ids flags data).fails_rest stored run

/-! ### Commands that embed -/

/-- Where the commands that embed write. -/
def Command.embedOutput? : Command → Option Path
  | .embed _ output _ _ _ => some output
  | .embedSet _ output _ _ => some output
  | .extract .. | .watch .. => none

theorem run_embed :
    (Command.embed patterns output includes flags numbers).run setup =
      jobThenLine (embedPatterns setup patterns output includes flags numbers)
        fun count => wroteSet count output :=
  rfl

theorem run_embedSet :
    (Command.embedSet source output flags numbers).run setup =
      jobThenLine (embedStored setup source output flags numbers)
        fun _ => wroteFile output := by
  rw [Command.run, sayWritten_single]
  rfl

/-- A job that failed leaves what a failure leaves, and a job that went through fails only by its
closing line. -/
theorem leaves_of_jobThenLine {Value : Type} {job : JobAction Value} {closing : Value → String}
    {verbose : Bool} {command : Command}
    (leaves : ∀ failure after, job.Fails tree failure after →
      command.Leaves setup tree output after)
    (failed : (Outcome.ofEnding verbose (jobThenLine job closing tree)).status ≠ 0)
    (told : ∀ fault, (Outcome.ofEnding verbose (jobThenLine job closing tree)).crash ≠
      some (.markup fault)) :
    command.Leaves setup tree output
      (Outcome.ofEnding verbose (jobThenLine job closing tree)).tree := by
  rcases yields_or_fails job tree with ⟨value, run⟩ | ⟨failure, run⟩
  · cases shown : Console.show? (closing value).toList with
    | ok line => exact absurd (jobThenLine_done closing verbose run shown).1 failed
    | error fault => exact absurd (jobThenLine_unshown closing verbose run shown).2.1 (told fault)
  · have left : (Outcome.ofEnding verbose (jobThenLine job closing tree)).tree = (job tree).tree := by
      cases expected : failure.isExpected with
      | true =>
        obtain ⟨_, _, _, _, _, left⟩ := jobThenLine_failed closing verbose run expected
        exact left
      | false => exact (jobThenLine_crashed closing verbose run expected).2.2.2
    rw [left]
    exact leaves failure _ run

/-- Whatever the files and the command line are, a command that embeds and ends with a failure
leaves every file as it was. Only where no file can be moved to its output, there may be the
sibling besides, with the descriptor set that was made and could not be moved. This is about
commands that can tell the user what they wrote: the path of the output is marked-up text to the
console, and not all of that can be shown. -/
theorem Request.run_spares {request : Request}
    (embeds : ∀ verbose command, request = .command verbose command →
      command.embedOutput?.isSome)
    (failed : (request.run setup tree).status ≠ 0)
    (told : ∀ fault, (request.run setup tree).crash ≠ some (.markup fault)) :
    tree.SameFiles (request.run setup tree).tree ∨
      ∃ verbose command output content, request = .command verbose command ∧
        command.embedOutput? = some output ∧ command.Makes setup tree content ∧
          Spares tree output content (request.run setup tree).tree := by
  cases request with
  | help | misuse => exact Or.inl (.refl tree)
  | command verbose command =>
    have leaves : ∃ output, command.embedOutput? = some output ∧ command.Leaves setup tree output
        ((Request.command verbose command).run setup tree).tree := by
      cases command with
      | embed patterns output includes flags numbers =>
        refine ⟨output, rfl, ?_⟩
        simp only [Request.run, run_embed] at failed told ⊢
        exact leaves_of_jobThenLine (fun _ _ => leaves_of_embedPatterns) failed told
      | embedSet source output flags numbers =>
        refine ⟨output, rfl, ?_⟩
        simp only [Request.run, run_embedSet] at failed told ⊢
        exact leaves_of_jobThenLine (fun _ _ => leaves_of_embedStored) failed told
      | extract patterns output includes numbers => cases embeds verbose _ rfl
      | watch directory output flags numbers => cases embeds verbose _ rfl
    obtain ⟨output, writes, same | ⟨content, makes, spares⟩⟩ := leaves
    · exact Or.inl same
    · exact Or.inr ⟨verbose, command, output, content, rfl, writes, makes, spares⟩

/-! ### Failures that leave something -/

/-- An installation without descriptors, in which nothing has been set. -/
def bareSetup : Setup where
  variableText := none
  compiler includes := Compile.Table.compiler [] (includes.headD standardInclude)

/-- Embed the comments of a written descriptor set, with nothing else said. -/
def embedSetRequest (source output : String) : Request :=
  .command false (.embedSet (Path.ofText source.toList) (Path.ofText output.toList) {}
    fun _ => none)

theorem embedSetRequest_run (source output : String) (tree : FileTree) :
    (embedSetRequest source output).run bareSetup tree =
      Outcome.ofEnding false (jobThenLine
        (embedStored bareSetup (Path.ofText source.toList) (Path.ofText output.toList) {}
          fun _ => none)
        (fun _ => wroteFile (Path.ofText output.toList)) tree) := by
  rw [embedSetRequest, Request.run, run_embedSet]

/-- An empty descriptor set, and a directory where it is to be written again. -/
def directoryTree : FileTree :=
  workspaceOf [("in.bin", ""), ("out/keep", "k")]

/-- An empty descriptor set alone. -/
def setTree : FileTree :=
  workspaceOf [("in.bin", "")]

/-- With nothing set every kind has the standard number. -/
theorem chooseIds_unset {setup : Setup} (unset : setup.variableText = none) (tree : FileTree) :
    (chooseIds setup (fun _ => none) tree).result = .ok (.uniform standardNumber) := by
  simp only [chooseIds, Action.inspect, unset]
  rfl

theorem embedSet_nil (ids : Ids) (flags : EmbedFlags) :
    (embedSet ids flags []).result = .ok [] :=
  embedSet_ok_iff.mpr ⟨[], [], by cbv, .nil, by cbv, rfl⟩

theorem directory_refused :
    (embedStored bareSetup (Path.ofText "in.bin".toList) (Path.ofText "out".toList) {}
      fun _ => none).Fails directoryTree
      (.system
        { fault := .isDirectory
          path := Path.ofText "out.partial".toList
          target := some (Path.ofText "out".toList) })
      (directoryTree.setFile [['w'], "out.partial".toList] []) :=
  fails_embedStored_of_write (chooseIds_unset rfl _) (by cbv) (embedSet_nil _ _) ⟨by cbv, by cbv⟩

/-- That the file cannot be moved to the directory is reported, and the sibling is left. -/
theorem directory_run :
    let outcome := (embedSetRequest "in.bin" "out").run bareSetup directoryTree
    outcome.status = 1 ∧ outcome.crash = none ∧
      outcome.tree = directoryTree.setFile [['w'], "out.partial".toList] [] := by
  obtain ⟨_, _, status, crash, _, left⟩ :=
    jobThenLine_failed (fun _ => wroteFile (Path.ofText "out".toList)) false directory_refused rfl
  rw [← embedSetRequest_run] at status crash left
  exact ⟨status, crash, left⟩

theorem Request.run_spares_directory :
    (∀ verbose command, embedSetRequest "in.bin" "out" = .command verbose command →
      command.embedOutput?.isSome) ∧
    ((embedSetRequest "in.bin" "out").run bareSetup directoryTree).status ≠ 0 ∧
    (∀ fault, ((embedSetRequest "in.bin" "out").run bareSetup directoryTree).crash ≠
      some (.markup fault)) ∧
    (directoryTree.SameFiles ((embedSetRequest "in.bin" "out").run bareSetup directoryTree).tree ∨
      ∃ verbose command output content,
        embedSetRequest "in.bin" "out" = .command verbose command ∧
        command.embedOutput? = some output ∧ command.Makes bareSetup directoryTree content ∧
        Spares directoryTree output content
          ((embedSetRequest "in.bin" "out").run bareSetup directoryTree).tree) := by
  obtain ⟨status, crash, _⟩ := directory_run
  have embeds : ∀ verbose command, embedSetRequest "in.bin" "out" = .command verbose command →
      command.embedOutput?.isSome := by
    rintro verbose command same
    cases same
    rfl
  have failed : ((embedSetRequest "in.bin" "out").run bareSetup directoryTree).status ≠ 0 := by
    rw [status]
    decide
  have told : ∀ fault, ((embedSetRequest "in.bin" "out").run bareSetup directoryTree).crash ≠
      some (.markup fault) := by
    rw [crash]
    nofun
  exact ⟨embeds, failed, told, Request.run_spares embeds failed told⟩

/-- The closing tag in the path of this output closes nothing, so the line about the output that
was written cannot be shown. -/
theorem unshown_run :
    let outcome := (embedSetRequest "in.bin" "out[/]").run bareSetup setTree
    outcome.status = 1 ∧
      outcome.tree = (setTree.addDirectory [['w'], "out[".toList]).setFile
        [['w'], "out[".toList, "]".toList] [] := by
  have run : (embedStored bareSetup (Path.ofText "in.bin".toList) (Path.ofText "out[/]".toList)
      {} fun _ => none).Yields setTree ()
      ((setTree.addDirectory [['w'], "out[".toList]).setFile
        [['w'], "out[".toList, "]".toList] []) :=
    yields_embedStored_iff.mpr
      ⟨_, _, _, chooseIds_unset rfl _, by cbv, embedSet_nil _ _, by cbv, by cbv⟩
  have stuck : Console.show? (wroteFile (Path.ofText "out[/]".toList)).toList =
      .error (.unopenedTag ['/']) := by
    rw [toList_wroteFile]
    exact Console.show?_wrote_error (by cbv)
  obtain ⟨status, _, left⟩ := jobThenLine_unshown
    (fun _ => wroteFile (Path.ofText "out[/]".toList)) false run stuck
  rw [← embedSetRequest_run] at status left
  exact ⟨status, left⟩

/-- Two failures that leave a file: the sibling of an output that is a directory, and an output
whose path is no good markup. -/
theorem failed_embedding_leaves_file :
    (((embedSetRequest "in.bin" "out").run bareSetup directoryTree).status ≠ 0 ∧
      ¬ directoryTree.SameFiles
        ((embedSetRequest "in.bin" "out").run bareSetup directoryTree).tree) ∧
    (((embedSetRequest "in.bin" "out[/]").run bareSetup setTree).status ≠ 0 ∧
      ¬ setTree.SameFiles ((embedSetRequest "in.bin" "out[/]").run bareSetup setTree).tree) := by
  obtain ⟨refused, _, sibling⟩ := directory_run
  obtain ⟨unshown, written⟩ := unshown_run
  rw [refused, sibling, unshown, written]
  have absent : directoryTree.content? [['w'], "out.partial".toList] = none := by cbv
  have absent' : setTree.content? [['w'], "out[".toList, "]".toList] = none := by cbv
  refine ⟨⟨by decide, ?_⟩, by decide, ?_⟩
  · exact FileTree.not_sameFiles_of_new absent (FileTree.content?_setFile _ _ _)
  · exact FileTree.not_sameFiles_of_new absent' (FileTree.content?_setFile _ _ _)

end SchemaDoc.CommandLine
