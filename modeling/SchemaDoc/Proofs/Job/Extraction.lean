import Mathlib.Data.List.Forall2
import SchemaDoc.Job.Extract
import SchemaDoc.Proofs.Description.Restoration
import SchemaDoc.Proofs.Descriptor.Rereading
import SchemaDoc.Proofs.Job.Output
import SchemaDoc.Proofs.Text.Utf8

/-!
# Extracting several files

Files are read, compiled and written again one after the other. What becomes of a file is told by
the place it is read from and by the table, so the files as they were before the run tell all of
it, as long as nothing is written where another file is still to be read. Then the order of the
files makes no difference, unless two of them are written to one place.
-/
namespace SchemaDoc.Job

open Compile (Table)
open Description (Ids restore)
open Descriptor (Message decode files_of_single findFile?)
open Text (encode)
open Workspace (Action FileTree Path Place)
open Workspace.Action
open Workspace.FileTree (SameFiles SameSurroundings Wrote)

variable {tree between after : FileTree} {table : Table} {root output file other path : Path}
  {ids : Ids} {files : List Path}

/-! ### What becomes of one file -/

/-- The place where the new text of a file with this name is written. -/
def outputPlace (tree : FileTree) (output : Path) (name : List Char) : Place :=
  (output.append (Path.ofText name)).resolve tree.current

/-- What a file is called below the root and what its restored text is, told from files and table:
it is the text at the place of the file, restored with the descriptor that the table has for that
place, as this is read back from its bytes. -/
inductive Extracts (tree : FileTree) (table : Table) (root : Path) (ids : Ids) (file : Path) :
    List Char → List Char → Prop
  | intro {name source text : List Char} {stored set descriptor : Message}
      (named : relativeName tree file root = .ok name)
      (held : tree.content? (file.resolve tree.current) = some (encode source))
      (described : table.descriptor tree root file = .ok stored)
      (decoded : decode .fileSet (Message.encode [.message 1 stored]) = .ok set)
      (found : findFile? set name = some descriptor)
      (restored : (restore source descriptor ids).result = .ok text) :
      Extracts tree table root ids file name text

theorem relativeName_congr (same : tree.SameSurroundings after) (file root : Path) :
    relativeName after file root = relativeName tree file root := by
  rw [relativeName, relativeName, same.settle]

theorem descriptor_congr (same : tree.SameSurroundings after) (root file : Path) :
    table.descriptor after root file = table.descriptor tree root file := by
  rw [Table.descriptor, Table.descriptor, same.resolve]

theorem outputPlace_congr (same : tree.SameSurroundings after) (output : Path)
    (name : List Char) : outputPlace after output name = outputPlace tree output name := by
  rw [outputPlace, outputPlace, same.current]

/-- The table is asked for the place of a file. -/
theorem lookup_of_descriptor {stored : Message}
    (described : table.descriptor tree root file = .ok stored) :
    ∃ parts, Path.below? (root.resolve tree.current) (file.resolve tree.current) = some parts ∧
      table.lookup (Path.relativeText parts) = some stored := by
  rw [Table.descriptor] at described
  split at described
  next place base led start =>
    rw [← FileTree.eq_of_resolve led, ← FileTree.eq_of_resolve start]
    split at described
    · cases described
    next parts below =>
      split at described
      · cases described
      next found =>
        cases described
        exact ⟨parts, below, found⟩
  · cases described
  · cases described

namespace Extracts

variable {name name' text text' : List Char}

/-- Files that are read from one place are restored to one text, whatever they are called. -/
theorem text_eq (first : Extracts tree table root ids file name text)
    (second : Extracts tree table root ids other name' text')
    (place : file.resolve tree.current = other.resolve tree.current) : text = text' := by
  obtain ⟨_, held, described, decoded, found, restored⟩ := first
  obtain ⟨_, held', described', decoded', found', restored'⟩ := second
  obtain ⟨parts, below, listed⟩ := lookup_of_descriptor described
  obtain ⟨parts', below', listed'⟩ := lookup_of_descriptor described'
  -- One place has one name in the table, and so one descriptor and one content.
  rw [← place] at below' held'
  cases below.symm.trans below'
  cases listed.symm.trans listed'
  cases decoded.symm.trans decoded'
  -- The set has one file, so whatever the names are, it is found.
  obtain ⟨only, single⟩ := files_of_single decoded
  rw [findFile?, single] at found found'
  have here := List.mem_singleton.mp (List.mem_of_find?_eq_some found)
  have here' := List.mem_singleton.mp (List.mem_of_find?_eq_some found')
  subst here here'
  cases Text.encode_inj (Option.some.inj (held.symm.trans held'))
  exact Except.ok.inj (restored.symm.trans restored')

theorem named (run : Extracts tree table root ids file name text) :
    relativeName tree file root = .ok name := by
  obtain ⟨named, _⟩ := run
  exact named

/-- Files that change elsewhere make no difference. -/
theorem of_same (run : Extracts between table root ids file name text)
    (same : tree.SameSurroundings between)
    (untouched : between.content? (file.resolve tree.current) =
      tree.content? (file.resolve tree.current)) :
    Extracts tree table root ids file name text := by
  obtain ⟨named, held, described, decoded, found, restored⟩ := run
  rw [relativeName_congr same] at named
  rw [same.current, untouched] at held
  rw [descriptor_congr same] at described
  exact .intro named held described decoded found restored

end Extracts

/-! ### Extracting one file -/

theorem compile_single {data : Text.Bytes}
    (compiled : (table.compiler root).compile tree (extractRequest file) = .ok data) :
    ∃ stored, table.descriptor tree root file = .ok stored ∧
      data = Message.encode [.message 1 stored] := by
  obtain ⟨descriptors, all, told⟩ := bind_eq_ok_iff.mp compiled
  obtain ⟨stored, described, rest⟩ := bind_eq_ok_iff.mp all
  cases rest
  obtain ⟨_, written⟩ := Message.serialize_ok_iff.mp (mapError_eq_ok_iff.mp told)
  exact ⟨stored, described, written⟩

theorem extracts_of_extractFile {name text : List Char}
    (run : (extractFile (table.compiler root) file ids).Yields tree (name, text) after) :
    Extracts tree table root ids file name text ∧ tree = after := by
  -- Up to the text nothing is changed, so every look is at the files as they were.
  obtain ⟨_, _, naming, run⟩ := yields_bind_iff.mp run
  obtain ⟨named, rfl⟩ := yields_inspect_iff.mp naming
  obtain ⟨content, _, reading, run⟩ := yields_bind_iff.mp run
  obtain ⟨read, rfl⟩ := yields_inspect_iff.mp reading
  have held := FileTree.content?_of_read (mapError_eq_ok_iff.mp read)
  split at run
  · cases not_yields_fail run
  next source legible =>
    rw [← Text.encode_of_decode legible] at held
    obtain ⟨data, _, compiling, run⟩ := yields_bind_iff.mp run
    obtain ⟨compiled, rfl⟩ := yields_inspect_iff.mp compiling
    obtain ⟨stored, described, rfl⟩ := compile_single compiled
    split at run
    · cases not_yields_fail run
    next set decoded =>
      split at run
      · cases not_yields_fail run
      next descriptor found =>
        obtain ⟨_, _, restoring, run⟩ := yields_bind_iff.mp run
        obtain ⟨restored, rfl⟩ := yields_ofLogged_iff.mp restoring
        obtain ⟨same, left⟩ := yields_pure_iff.mp run
        cases same
        exact ⟨.intro named held described decoded found (mapError_eq_ok_iff.mp restored), left⟩

/-- One step of the run: the text of one file is written, told from the files before the step. -/
theorem extracts_of_extractTo
    (run : (extractTo (table.compiler root) output ids file).Yields tree path after) :
    ∃ name text, Extracts tree table root ids file name text ∧
      path = output.append (Path.ofText name) ∧
      tree.Wrote (outputPlace tree output name) (encode text) after := by
  obtain ⟨⟨name, text⟩, _, run, rest⟩ := yields_bind_iff.mp run
  obtain ⟨extracts, rfl⟩ := extracts_of_extractFile run
  obtain ⟨_, _, written, rest⟩ := yields_bind_iff.mp rest
  obtain ⟨_, _, noted, rest⟩ := yields_bind_iff.mp rest
  cases yields_note_iff.mp noted
  obtain ⟨rfl, rfl⟩ := yields_pure_iff.mp rest
  exact ⟨name, text, extracts, rfl, wrote_of_writeFile written⟩

/-! ### Extracting files one after the other -/

/-- Files that do not get into each other's way: none is written where another one is read from,
and those that are written to one place are read from one place. -/
structure Apart (tree : FileTree) (root output : Path) (files : List Path) : Prop where
  reads : ∀ file ∈ files, ∀ other ∈ files, other ≠ file → ∀ name,
    relativeName tree file root = .ok name →
      outputPlace tree output name ≠ other.resolve tree.current
  writes : ∀ file ∈ files, ∀ other ∈ files, ∀ name name',
    relativeName tree file root = .ok name → relativeName tree other root = .ok name' →
      outputPlace tree output name = outputPlace tree output name' →
        file.resolve tree.current = other.resolve tree.current

/-- A place where one of the files is written. -/
def IsOutput (tree : FileTree) (root output : Path) (files : List Path) (place : Place) : Prop :=
  ∃ file ∈ files, ∃ name, relativeName tree file root = .ok name ∧
    outputPlace tree output name = place

/-- The files as they are after some were extracted, told from what they were before: the restored
texts are where they belong, and all else is as it was. -/
structure Extraction (tree : FileTree) (table : Table) (root output : Path) (ids : Ids)
    (files : List Path) (after : FileTree) : Prop where
  surroundings : tree.SameSurroundings after
  written : ∀ file ∈ files, ∃ name text, Extracts tree table root ids file name text ∧
    after.content? (outputPlace tree output name) = some (encode text)
  kept : ∀ place, ¬ IsOutput tree root output files place →
    after.content? place = tree.content? place

theorem isOutput_congr (same : tree.SameSurroundings between) (place : Place) :
    IsOutput between root output files place ↔ IsOutput tree root output files place := by
  simp only [IsOutput, relativeName_congr same, outputPlace_congr same]

theorem isOutput_cons {rest : List Path} {name : List Char}
    (named : relativeName tree file root = .ok name) (place : Place) :
    IsOutput tree root output (file :: rest) place ↔
      outputPlace tree output name = place ∨ IsOutput tree root output rest place := by
  simp [IsOutput, named]

namespace Apart

/-- Fewer files are apart, too, and so are the same ones in another order. -/
theorem mono {again : List Path} (apart : Apart tree root output files)
    (among : ∀ file ∈ again, file ∈ files) : Apart tree root output again where
  reads file member other member' := apart.reads file (among file member) other
    (among other member')
  writes file member other member' := apart.writes file (among file member) other
    (among other member')

theorem of_same (apart : Apart tree root output files) (same : tree.SameSurroundings between) :
    Apart between root output files where
  reads file member other member' distinct name named := by
    rw [relativeName_congr same] at named
    rw [outputPlace_congr same, same.current]
    exact apart.reads file member other member' distinct name named
  writes file member other member' name name' named named' one := by
    rw [relativeName_congr same] at named named'
    rw [outputPlace_congr same, outputPlace_congr same] at one
    rw [same.current]
    exact apart.writes file member other member' name name' named named' one

/-- Files that are all written over themselves are apart, if they lie at different places. -/
theorem of_inPlace
    (places : ∀ file ∈ files, ∀ name, relativeName tree file root = .ok name →
      outputPlace tree output name = file.resolve tree.current)
    (distinct : (files.map (Path.resolve tree.current)).Nodup) :
    Apart tree root output files where
  reads file member other member' different name named := by
    rw [places file member name named]
    exact fun one => different (List.inj_on_of_nodup_map distinct member' member one.symm)
  writes file member other member' name name' named named' one := by
    rw [← places file member name named, one, places other member' name' named']

end Apart

namespace Extraction

theorem of_perm {again : List Path} (run : Extraction tree table root output ids files after)
    (perm : files.Perm again) : Extraction tree table root output ids again after where
  surroundings := run.surroundings
  written file member := run.written file (perm.mem_iff.mpr member)
  kept place elsewhere := by
    refine run.kept place fun target => elsewhere ?_
    obtain ⟨file, member, here⟩ := target
    exact ⟨file, perm.mem_iff.mp member, here⟩

/-- Which files were extracted decides all contents. -/
theorem content?_eq {again : FileTree} (first : Extraction tree table root output ids files after)
    (second : Extraction tree table root output ids files again) (place : Place) :
    after.content? place = again.content? place := by
  -- At an output both hold the text that belongs there, and elsewhere both are as before.
  by_cases target : IsOutput tree root output files place
  · obtain ⟨file, member, name, named, rfl⟩ := target
    obtain ⟨name₁, text₁, extracts₁, held₁⟩ := first.written file member
    obtain ⟨name₂, text₂, extracts₂, held₂⟩ := second.written file member
    cases named.symm.trans extracts₁.named
    cases named.symm.trans extracts₂.named
    rw [held₁, held₂, extracts₁.text_eq extracts₂ rfl]
  · rw [first.kept place target, second.kept place target]

/-- Later files are told from the files before the first one, too, if that is not written where
they are read from. -/
theorem written_of_wrote {name text : List Char} {rest : List Path}
    (later : Extraction between table root output ids rest after)
    (wrote : tree.Wrote (outputPlace tree output name) (encode text) between)
    (unread : ∀ other ∈ rest, outputPlace tree output name ≠ other.resolve tree.current) :
    ∀ other ∈ rest, ∃ name text, Extracts tree table root ids other name text ∧
      after.content? (outputPlace tree output name) = some (encode text) := by
  intro other member
  obtain ⟨name', text', extracts, held⟩ := later.written other member
  rw [outputPlace_congr wrote.toSameSurroundings] at held
  have untouched := wrote.content?_ne _ (unread other member).symm
  exact ⟨name', text', extracts.of_same wrote.toSameSurroundings untouched, held⟩

/-- One file is extracted, and then others with which it is apart. -/
theorem cons {name text : List Char} {rest : List Path}
    (apart : Apart tree root output (file :: rest)) (fresh : file ∉ rest)
    (extracts : Extracts tree table root ids file name text)
    (wrote : tree.Wrote (outputPlace tree output name) (encode text) between)
    (later : Extraction between table root output ids rest after) :
    Extraction tree table root output ids (file :: rest) after := by
  have same := wrote.toSameSurroundings
  have told := later.written_of_wrote wrote fun other member =>
    apart.reads file List.mem_cons_self other (List.mem_cons_of_mem file member)
      (fun one => fresh (one ▸ member)) name extracts.named
  have kept : ∀ place, ¬ IsOutput tree root output rest place →
      after.content? place = between.content? place :=
    fun place elsewhere => later.kept place ((isOutput_congr same place).not.mpr elsewhere)
  refine ⟨same.trans later.surroundings, ?_, ?_⟩
  · intro other member
    obtain rfl | member := List.mem_cons.mp member
    · refine ⟨name, text, extracts, ?_⟩
      by_cases covered : IsOutput tree root output rest (outputPlace tree output name)
      · -- What is written over the first text is the same text.
        obtain ⟨again, member, name', named, one⟩ := covered
        obtain ⟨_, text', extracts', held⟩ := told again member
        cases named.symm.trans extracts'.named
        have place := apart.writes other List.mem_cons_self again (List.mem_cons_of_mem _ member)
          name name' extracts.named named one.symm
        rw [← one, held, extracts.text_eq extracts' place]
      · rw [kept _ covered]
        exact wrote.content?_same
    · exact told other member
  · intro place elsewhere
    rw [isOutput_cons extracts.named, not_or] at elsewhere
    rw [kept place elsewhere.2]
    exact wrote.content?_ne place (Ne.symm elsewhere.1)

end Extraction

theorem yields_extractFiles_cons {rest written : List Path}
    (run : (extractFiles (table.compiler root) output ids (file :: rest)).Yields tree written
      after) :
    ∃ path between others,
      (extractTo (table.compiler root) output ids file).Yields tree path between ∧
      (extractFiles (table.compiler root) output ids rest).Yields between others after ∧
      written = path :: others := by
  obtain ⟨path, between, first, more⟩ := yields_bind_iff.mp run
  obtain ⟨others, _, later, ending⟩ := yields_bind_iff.mp more
  obtain ⟨rfl, rfl⟩ := yields_pure_iff.mp ending
  exact ⟨path, between, others, first, later, rfl⟩

/-- A run leaves everything as the files before it told, if the files are apart. -/
theorem extraction_of_extractFiles {written : List Path} (distinct : files.Nodup)
    (apart : Apart tree root output files)
    (run : (extractFiles (table.compiler root) output ids files).Yields tree written after) :
    Extraction tree table root output ids files after := by
  -- The rest of the run starts on files that the first step changed, so they vary.
  induction files generalizing tree written with
  | nil =>
    obtain ⟨_, rfl⟩ := yields_pure_iff.mp run
    exact ⟨.refl tree, nofun, fun _ _ => rfl⟩
  | cons file rest ih =>
    obtain ⟨path, between, others, first, later, rfl⟩ := yields_extractFiles_cons run
    obtain ⟨name, text, extracts, _, wrote⟩ := extracts_of_extractTo first
    obtain ⟨fresh, distinct⟩ := List.nodup_cons.mp distinct
    have remaining : Apart between root output rest :=
      (apart.mono fun _ => List.mem_cons_of_mem file).of_same wrote.toSameSurroundings
    exact .cons apart fresh extracts wrote (ih distinct remaining later)

/-- The paths that a run gives are those of its files below the output directory. -/
theorem paths_of_extractFiles {written : List Path}
    (run : (extractFiles (table.compiler root) output ids files).Yields tree written after) :
    List.Forall₂ (fun file path => ∃ name, relativeName tree file root = .ok name ∧
      path = output.append (Path.ofText name)) files written := by
  induction files generalizing tree written with
  | nil =>
    obtain ⟨rfl, _⟩ := yields_pure_iff.mp run
    exact .nil
  | cons file rest ih =>
    obtain ⟨path, between, others, first, later, rfl⟩ := yields_extractFiles_cons run
    obtain ⟨name, text, extracts, here, wrote⟩ := extracts_of_extractTo first
    refine .cons ⟨name, extracts.named, here⟩ ((ih later).imp ?_)
    rintro other path ⟨name, named, here⟩
    rw [relativeName_congr wrote.toSameSurroundings] at named
    exact ⟨name, named, here⟩

/-- Whatever the order of files that are apart: if two runs go through, all contents are the same
after both, and at every path that is given is the restored text of the file as it was before. -/
theorem extractFiles_perm {again written rewritten : List Path} (distinct : files.Nodup)
    (perm : files.Perm again) (apart : Apart tree root output files)
    (run : (extractFiles (table.compiler root) output ids files tree).result = .ok written)
    (rerun : (extractFiles (table.compiler root) output ids again tree).result = .ok rewritten) :
    let after := (extractFiles (table.compiler root) output ids files tree).tree
    (∀ place, after.content? place =
      (extractFiles (table.compiler root) output ids again tree).tree.content? place) ∧
    List.Forall₂ (fun file path => ∃ name text, Extracts tree table root ids file name text ∧
      path = output.append (Path.ofText name) ∧
      after.content? (path.resolve tree.current) = some (encode text)) files written := by
  have first := extraction_of_extractFiles distinct apart ⟨run, rfl⟩
  have second := extraction_of_extractFiles (perm.nodup_iff.mp distinct)
    (apart.mono fun _ => perm.mem_iff.mpr) ⟨rerun, rfl⟩
  refine ⟨first.content?_eq (second.of_perm perm.symm), ?_⟩
  have both := (List.forall₂_and_left _ _).mpr ⟨first.written, paths_of_extractFiles ⟨run, rfl⟩⟩
  refine both.imp ?_
  rintro file path ⟨⟨name, text, extracts, held⟩, _, named, rfl⟩
  cases named.symm.trans extracts.named
  exact ⟨name, text, extracts, rfl, held⟩

/-! ### Small workspaces -/

/-- A table of descriptors that tell no more than the name of a file. -/
def bareTable (rows : List (String × String)) : Table :=
  rows.map fun row => (row.1.toList, [.text 1 (encode row.2.toList)])

/-- The files with these names in the working directory. -/
def filesOf (names : List String) : List Path :=
  names.map fun name => Path.ofText name.toList

def workingDirectory : Path := Path.ofText ['.']

def describedTree : FileTree :=
  workspaceOf [("a.proto", String.ofList Description.bracketedSource),
    ("b.proto", "message B \x7b\x7d\n")]

def describedTable : Table :=
  ("a.proto".toList, .text 1 (encode "a.proto".toList) :: Description.bracketedFile) ::
    bareTable [("b.proto", "b.proto")]

def describedRun (names : List String) : Workspace.Ending LogEntry Failure (List Path) :=
  extractFiles (describedTable.compiler workingDirectory) workingDirectory
    (.uniform Description.standardNumber) (filesOf names) describedTree

theorem described_apart :
    Apart describedTree workingDirectory workingDirectory (filesOf ["a.proto", "b.proto"]) := by
  have first : relativeName describedTree (Path.ofText "a.proto".toList) workingDirectory =
      .ok "a.proto".toList := by
    cbv
  have second : relativeName describedTree (Path.ofText "b.proto".toList) workingDirectory =
      .ok "b.proto".toList := by
    cbv
  apply Apart.of_inPlace
  · intro file member name named
    simp only [filesOf, List.map_cons, List.map_nil, List.mem_cons, List.not_mem_nil,
      or_false] at member
    obtain rfl | rfl := member
    · cases first.symm.trans named
      cbv
    · cases second.symm.trans named
      cbv
  · cbv
    decide

/-- Two files that are written over themselves, in both orders. -/
theorem extractFiles_perm_inPlace :
    (filesOf ["a.proto", "b.proto"]).Nodup ∧
    (filesOf ["a.proto", "b.proto"]).Perm (filesOf ["b.proto", "a.proto"]) ∧
    Apart describedTree workingDirectory workingDirectory (filesOf ["a.proto", "b.proto"]) ∧
    (describedRun ["a.proto", "b.proto"]).result = .ok (filesOf ["a.proto", "b.proto"]) ∧
    (describedRun ["b.proto", "a.proto"]).result = .ok (filesOf ["b.proto", "a.proto"]) ∧
    (∀ place, (describedRun ["a.proto", "b.proto"]).tree.content? place =
      (describedRun ["b.proto", "a.proto"]).tree.content? place) ∧
    (describedRun ["a.proto", "b.proto"]).tree.content? [['w'], "a.proto".toList] =
      some (encode "enum E \x7b\n  // x\n  A = 0;\n\x7d\n".toList) := by
  have distinct : (filesOf ["a.proto", "b.proto"]).Nodup := by decide
  have perm : (filesOf ["a.proto", "b.proto"]).Perm (filesOf ["b.proto", "a.proto"]) := by decide
  have run : (describedRun ["a.proto", "b.proto"]).result =
      .ok (filesOf ["a.proto", "b.proto"]) := by
    cbv
  have rerun : (describedRun ["b.proto", "a.proto"]).result =
      .ok (filesOf ["b.proto", "a.proto"]) := by
    cbv
  refine ⟨distinct, perm, described_apart, run, rerun,
    (extractFiles_perm distinct perm described_apart run rerun).1, ?_⟩
  cbv

/-- Two orders in which files can be extracted, and that leave different contents. -/
structure OrderMatters (tree : FileTree) (table : Table) (root output : Path) (ids : Ids)
    (files again : List Path) : Prop where
  distinct : files.Nodup
  perm : files.Perm again
  run : ∃ written, (extractFiles (table.compiler root) output ids files tree).result = .ok written
  rerun : ∃ rewritten,
    (extractFiles (table.compiler root) output ids again tree).result = .ok rewritten
  differ : ∃ place, (extractFiles (table.compiler root) output ids files tree).tree.content? place ≠
    (extractFiles (table.compiler root) output ids again tree).tree.content? place

/-- The first file is written where the second one is read from. -/
def nestedTree : FileTree :=
  workspaceOf [("a.proto", "message One \x7b\x7d\n"), ("out/a.proto", "message Two \x7b\x7d\n")]

def nestedTable : Table :=
  bareTable [("a.proto", "a.proto"), ("out/a.proto", "out/a.proto")]

/-- A name is told with the tilde read as the home directory, a file is read without. So both
files are written to one place. -/
def tildeTree : FileTree :=
  workspaceOf [("a.proto", "message One \x7b\x7d\n"), ("~/a.proto", "message Two \x7b\x7d\n")]

def tildeTable : Table :=
  bareTable [("a.proto", "a.proto"), ("~/a.proto", "a.proto")]

/-- Files that are not apart: with either condition missing, the order matters. -/
theorem orderMatters_of_overlap :
    OrderMatters nestedTree nestedTable workingDirectory (Path.ofText "out".toList)
      (.uniform Description.standardNumber) (filesOf ["a.proto", "out/a.proto"])
      (filesOf ["out/a.proto", "a.proto"]) ∧
    OrderMatters tildeTree tildeTable workingDirectory (Path.ofText "out".toList)
      (.uniform Description.standardNumber) (filesOf ["a.proto", "~/a.proto"])
      (filesOf ["~/a.proto", "a.proto"]) := by
  constructor
  · refine ⟨by decide, by decide,
      ⟨filesOf ["out/a.proto", "out/out/a.proto"], ?run⟩,
      ⟨filesOf ["out/out/a.proto", "out/a.proto"], ?rerun⟩,
      [['w'], "out".toList, "out".toList, "a.proto".toList], ?differ⟩
    case run => cbv
    case rerun => cbv
    case differ =>
      cbv
      decide
  · refine ⟨by decide, by decide, ⟨filesOf ["out/a.proto", "out/a.proto"], ?run⟩,
      ⟨filesOf ["out/a.proto", "out/a.proto"], ?rerun⟩,
      [['w'], "out".toList, "a.proto".toList], ?differ⟩
    case run => cbv
    case rerun => cbv
    case differ =>
      cbv
      decide

end SchemaDoc.Job
