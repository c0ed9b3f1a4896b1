import SchemaDoc.Proofs.CommandLine.Embedding

/-!
# What a watch keeps

A build that finds schema files and goes through puts its product where its output belongs; any
other build leaves the output as it is. A rebuild that ends early does not end the watch, so all
notices are handled. And however many have been, the output is the last product, as long as nobody
else writes there.
-/
namespace SchemaDoc.CommandLine

open Compile (Compiler)
open Console (show?)
open Description (EmbedFlags)
open Job (JobAction Spares embedFiles replaced_of_writeOutput schemaFiles spares_of_writeOutput
  workspaceOf)
open Text (Bytes)
open Watch (Batch Watcher)
open Watch.Watcher (takeBatch)
open Workspace (Action FileTree Path Place)
open Workspace.Action

variable {setup : Setup} {directory output : Path} {flags : EmbedFlags} {numbers : Numbers}
  {build : Build} {compiler : Compiler} {tree after first : FileTree} {count : Nat}
  {notice : Notice} {notices : List Notice} {place : Place} {data : Bytes}

/-! ### One build -/

/-- What a build produces, if it finds schema files and goes through: the bytes of the descriptor
set with the comments embedded. -/
def Build.product? (build : Build) (compiler : Compiler) (tree : FileTree) : Option Bytes :=
  match schemaFiles tree build.directory, (build.run compiler tree).result with
  | .ok (file :: rest), .ok _ =>
    (embedFiles compiler (file :: rest) build.ids build.flags tree).result.toOption
  | _, _ => none

/-- A build that goes through has found nothing and done nothing, or has put its product where its
output belongs. -/
theorem Build.run_yields (run : (build.run compiler).Yields tree count after) :
    (schemaFiles tree build.directory = .ok [] ∧ count = 0 ∧ tree = after) ∨
      ∃ file rest data, schemaFiles tree build.directory = .ok (file :: rest) ∧
        build.product? compiler tree = some data ∧
        tree.Replaced (build.output.resolve tree.current)
          ((Job.siblingOf build.output).resolve tree.current) data after := by
  have passed := run.result
  obtain ⟨files, found, run⟩ := (isReadOnly_inspect _).yields_bind_iff.mp run
  cases files with
  | nil =>
    obtain ⟨_, _, noted, run⟩ := yields_bind_iff.mp run
    obtain ⟨rfl, rfl⟩ := yields_pure_iff.mp run
    exact Or.inl ⟨found, rfl, yields_note_iff.mp noted⟩
  | cons file rest =>
    obtain ⟨data, produced, run⟩ := (isReadOnly_embedFiles _ _ _ _).yields_bind_iff.mp run
    obtain ⟨_, _, written, run⟩ := yields_bind_iff.mp run
    obtain ⟨_, rfl⟩ := yields_pure_iff.mp run
    refine Or.inr ⟨file, rest, data, found, ?_, replaced_of_writeOutput written⟩
    have listed : schemaFiles tree build.directory = .ok (file :: rest) := found
    rw [Build.product?, listed, passed]
    exact congrArg Except.toOption produced

theorem Build.run_fails {failure : Failure} (run : (build.run compiler).Fails tree failure after) :
    build.product? compiler tree = none ∧ ∃ data, Spares tree build.output data after := by
  constructor
  · rw [Build.product?, run.result]
    split
    · rename_i ended
      cases ended
    · rfl
  · rcases (isReadOnly_inspect _).fails_bind run with ⟨_, rfl⟩ | ⟨files, _, run⟩
    · exact ⟨[], .untouched (.refl tree)⟩
    cases files with
    | nil =>
      rcases fails_bind_iff.mp run with stopped | ⟨_, _, _, run⟩
      · cases not_fails_note stopped
      · cases not_fails_pure run
    | cons file rest =>
      rcases (isReadOnly_embedFiles _ _ _ _).fails_bind run with ⟨_, rfl⟩ | ⟨data, _, run⟩
      · exact ⟨[], .untouched (.refl tree)⟩
      rcases fails_bind_iff.mp run with stopped | ⟨_, _, _, run⟩
      · exact ⟨data, spares_of_writeOutput stopped⟩
      · cases not_fails_pure run

/-- A build has a product just when it finds schema files and goes through. -/
theorem Build.product?_isSome_iff :
    (build.product? compiler tree).isSome ↔
      (∃ file rest, schemaFiles tree build.directory = .ok (file :: rest)) ∧
        ∃ count, (build.run compiler tree).result = .ok count := by
  constructor
  · intro some
    rw [Build.product?] at some
    split at some
    · exact ⟨⟨_, _, ‹_›⟩, _, ‹_›⟩
    · cases some
  · rintro ⟨⟨file, rest, found⟩, count, passed⟩
    obtain ⟨empty, _⟩ | ⟨_, _, data, _, produced, _⟩ := Build.run_yields ⟨passed, rfl⟩
    · cases found.symm.trans empty
    · rw [produced]
      rfl

theorem Build.product?_eq_none (idle : schemaFiles tree build.directory = .ok [] ∨
    ∃ failure, (build.run compiler tree).result = .error failure) :
    build.product? compiler tree = none := by
  refine Option.not_isSome_iff_eq_none.mp fun some => ?_
  obtain ⟨⟨file, rest, found⟩, count, passed⟩ := Build.product?_isSome_iff.mp some
  rcases idle with empty | ⟨failure, failed⟩
  · cases found.symm.trans empty
  · cases passed.symm.trans failed

/-- After a build its output is its product, or what it was before if there is no product. -/
theorem Build.run_content (build : Build) (compiler : Compiler) (tree : FileTree) :
    tree.SameSurroundings (build.run compiler tree).tree ∧
      (build.run compiler tree).tree.content? (build.output.resolve tree.current) =
        (build.product? compiler tree).or (tree.content? (build.output.resolve tree.current)) := by
  rcases yields_or_fails (build.run compiler) tree with ⟨count, run⟩ | ⟨failure, run⟩
  · obtain ⟨empty, _, same⟩ | ⟨_, _, data, _, produced, replaced⟩ := Build.run_yields run
    · rw [← same, Build.product?, empty]
      exact ⟨.refl tree, rfl⟩
    · rw [produced]
      exact ⟨replaced.toSameSurroundings, replaced.content?_same⟩
  · obtain ⟨nothing, _, spared⟩ := Build.run_fails run
    rw [nothing]
    exact ⟨spared.sameSurroundings, spared.content?_eq⟩

/-! ### Notices -/

/-- What happens before a notice neither touches the file at a place nor moves the working
directory. -/
def Notice.Passes (notice : Notice) (current place : Place) : Prop :=
  ∀ tree : FileTree, tree.current = current →
    (notice.happening tree).current = current ∧
      (notice.happening tree).content? place = tree.content? place

/-- The product of the build after a notice. -/
def Build.productAfter? (build : Build) (notice : Notice) (tree : FileTree) : Option Bytes :=
  build.product? (notice.compiler [build.directory]) (notice.happening tree)

/-- Telling what came of a build changes no file. -/
theorem Build.renew_tree (build : Build) (compiler : Compiler) (paths : Batch) (tree : FileTree) :
    (build.renew compiler paths tree).tree = (build.run compiler tree).tree := by
  refine tree_bind_of_looks (fun result => ?_) tree
  cases result with
  | ok count => exact isReadOnly_say _
  | error failure =>
    dsimp only
    split
    · exact (isReadOnly_report failure).bind fun _ => isReadOnly_say _
    · exact isReadOnly_fail _

/-- A watcher takes a batch whether its rebuild fails or not. -/
theorem yields_takeBatch {rebuild : Batch → Session Bool} {batch : Batch} {failed : Bool}
    (run : (rebuild batch.eraseDups).Yields tree failed after) :
    (takeBatch (fun entry => Action.note (.logged entry)) rebuild batch).Yields tree () after := by
  refine yields_bind_iff.mpr ⟨(), tree, yields_note_iff.mpr rfl, ?_⟩
  refine yields_bind_iff.mpr ⟨failed, after, run, ?_⟩
  cases failed with
  | true => exact yields_note_iff.mpr rfl
  | false => exact yields_pure_iff.mpr ⟨rfl, rfl⟩

/-- Handling a notice goes through, and leaves what the build leaves. -/
theorem Build.handle_yields (build : Build) (notice : Notice) (tree : FileTree) :
    (build.handle notice).Yields tree ()
      (build.run (notice.compiler [build.directory]) (notice.happening tree)).tree := by
  refine yields_bind_iff.mpr ⟨(), notice.happening tree, yields_change_iff.mpr rfl, ?_⟩
  rw [← build.renew_tree _ notice.paths.eraseDups]
  exact yields_takeBatch ⟨rfl, rfl⟩

/-- One notice: the output is the product of the build after it, or stays what it was. -/
theorem Build.handle_content
    (passes : notice.Passes tree.current (build.output.resolve tree.current)) :
    (build.handle notice tree).tree.current = tree.current ∧
      (build.handle notice tree).tree.content? (build.output.resolve tree.current) =
        (build.productAfter? notice tree).or
          (tree.content? (build.output.resolve tree.current)) := by
  obtain ⟨stays, untouched⟩ := passes tree rfl
  obtain ⟨same, content⟩ :=
    build.run_content (notice.compiler [build.directory]) (notice.happening tree)
  rw [stays, untouched] at content
  rw [(build.handle_yields notice tree).left]
  exact ⟨same.current.trans stays, content⟩

/-- The files after some notices were handled one after the other, whatever came of each. -/
def Build.afterAll (build : Build) (tree : FileTree) (notices : List Notice) : FileTree :=
  notices.foldl (fun tree notice => (build.handle notice tree).tree) tree

/-- What the builds after notices produce, in order. -/
def Build.products (build : Build) : FileTree → List Notice → List (Option Bytes)
  | _, [] => []
  | tree, notice :: rest =>
    build.productAfter? notice tree :: build.products (build.handle notice tree).tree rest

/-- The last product, where the first one is known. -/
def lastProduct (data : Bytes) (products : List (Option Bytes)) : Bytes :=
  (products.filterMap id).getLastD data

theorem lastProduct_cons (data : Bytes) (product : Option Bytes) (later : List (Option Bytes)) :
    lastProduct data (product :: later) = lastProduct (product.getD data) later := by
  cases product with
  | none => rfl
  | some made =>
    have kept : (some made :: later).filterMap id = made :: later.filterMap id := rfl
    rw [lastProduct, kept, List.getLastD_cons, Option.getD_some, lastProduct]

/-- Any number of notices: the output is the last product of their builds, or what it was. -/
theorem Build.afterAll_content
    (held : tree.content? (build.output.resolve tree.current) = some data)
    (passes : ∀ notice ∈ notices,
      notice.Passes tree.current (build.output.resolve tree.current)) :
    (build.afterAll tree notices).current = tree.current ∧
      (build.afterAll tree notices).content? (build.output.resolve tree.current) =
        some (lastProduct data (build.products tree notices)) := by
  -- A build changes the files for those after it, and what is there until it has a product.
  induction notices generalizing tree data with
  | nil => exact ⟨rfl, held⟩
  | cons notice rest ih =>
    obtain ⟨stays, content⟩ := Build.handle_content (passes notice List.mem_cons_self)
    have before : (build.handle notice tree).tree.content? (build.output.resolve tree.current) =
        some ((build.productAfter? notice tree).getD data) := by
      rw [content, held]
      cases build.productAfter? notice tree <;> rfl
    rw [Build.products, lastProduct_cons]
    rw [← stays] at before passes ⊢
    exact ih before fun later member => passes later (List.mem_cons_of_mem notice member)

/-! ### The whole watch -/

theorem startWatch_yields_iff :
    (startWatch setup directory output flags numbers).Yields tree (build, count) first ↔
      ∃ ids, (chooseIds setup numbers tree).result = .ok ids ∧
        tree.probe directory = .ok (some .directory) ∧ build = ⟨directory, output, ids, flags⟩ ∧
          (build.run (setup.compiler [directory])).Yields tree count first := by
  refine (isReadOnly_chooseIds setup numbers).yields_bind_iff.trans (exists_congr fun ids => ?_)
  refine and_congr_right fun _ => ⟨fun run => ?_, ?_⟩
  · obtain ⟨_, checked, run⟩ := (isReadOnly_inspect _).yields_bind_iff.mp run
    obtain ⟨counted, _, run, ended⟩ := yields_bind_iff.mp run
    obtain ⟨same, rfl⟩ := yields_pure_iff.mp ended
    cases same
    obtain ⟨node, probed, here⟩ := bind_eq_ok_iff.mp checked
    split at here
    next isDirectory =>
      rw [mapError_eq_ok_iff.mp probed, isDirectory]
      exact ⟨rfl, rfl, run⟩
    · cases here
  · rintro ⟨probed, rfl, run⟩
    refine (isReadOnly_inspect _).yields_bind_iff.mpr ⟨(), ?_,
      yields_bind_iff.mpr ⟨count, first, run, yields_pure_iff.mpr ⟨rfl, rfl⟩⟩⟩
    exact bind_eq_ok_iff.mpr ⟨_, mapError_eq_ok_iff.mpr probed, rfl⟩

/-- What is started has been built, and its output is its first product. -/
theorem startWatch_content
    (started : (startWatch setup directory output flags numbers).Yields tree (build, count) first)
    (found : count ≠ 0) :
    build.directory = directory ∧ build.output = output ∧ first.current = tree.current ∧
      ∃ data, build.product? (setup.compiler [directory]) tree = some data ∧
        first.content? (output.resolve tree.current) = some data := by
  obtain ⟨ids, _, _, rfl, run⟩ := startWatch_yields_iff.mp started
  obtain ⟨_, none, _⟩ | ⟨_, _, data, _, produced, replaced⟩ := Build.run_yields run
  · exact absurd none found
  · exact ⟨rfl, rfl, replaced.current, data, produced, replaced.content?_same⟩

/-- A watcher handles all notices. -/
theorem Build.handleAll_yields (build : Build) (notices : List Notice) (tree : FileTree) :
    (build.handleAll notices).Yields tree () (build.afterAll tree notices) := by
  induction notices generalizing tree with
  | nil => exact yields_pure_iff.mpr ⟨rfl, rfl⟩
  | cons notice rest ih =>
    have first := build.handle_yields notice tree
    exact yields_bind_iff.mpr ⟨(), _, ⟨first.result, rfl⟩, ih (build.handle notice tree).tree⟩

theorem Build.serve_yields (build : Build) (notices : List Notice) (tree : FileTree) :
    (build.serve notices).Yields tree () (build.afterAll tree notices) := by
  refine yields_bind_iff.mpr ⟨(), tree, yields_note_iff.mpr rfl, ?_⟩
  exact yields_bind_iff.mpr
    ⟨(), _, build.handleAll_yields notices tree, yields_note_iff.mpr rfl⟩

/-- The two lines before the first notice can be shown. Both show paths, which are marked-up text
to the console. -/
def Announced (count : Nat) (directory output : Path) : Prop :=
  (∃ line, show? (wroteSet count output).toList = .ok line) ∧
    ∃ line, show? (watchesLine directory).toList = .ok line

/-- What a watch leaves in the end: what all notices have left, if it came to the first of them. -/
theorem keepBuilt_tree
    (started : (startWatch setup directory output flags numbers).Yields tree (build, count) first) :
    (Announced count directory output →
      (keepBuilt setup directory output flags numbers tree).tree =
        build.afterAll first setup.notices) ∧
    (¬Announced count directory output →
      (keepBuilt setup directory output flags numbers tree).tree = first) := by
  have required : (require (startWatch setup directory output flags numbers)).Yields tree
      (build, count) first := by
    constructor <;> rw [require_yields started]
  rw [keepBuilt, keepBuiltBy, required.tree_bind]
  dsimp only
  cases wrote : show? (wroteSet count output).toList with
  | error fault =>
    rw [say_unshown wrote, Fails.tree_bind (fails_fail_iff.mpr ⟨rfl, rfl⟩)]
    refine ⟨fun announced => ?_, fun _ => rfl⟩
    obtain ⟨⟨line, shown⟩, _⟩ := announced
    cases wrote.symm.trans shown
  | ok line =>
    rw [say_shown wrote, Yields.tree_bind (yields_note_iff.mpr rfl)]
    cases watches : show? (watchesLine directory).toList with
    | error fault =>
      rw [say_unshown watches, Fails.tree_bind (fails_fail_iff.mpr ⟨rfl, rfl⟩)]
      refine ⟨fun announced => ?_, fun _ => rfl⟩
      obtain ⟨_, line, shown⟩ := announced
      cases watches.symm.trans shown
    | ok line' =>
      rw [say_shown watches, Yields.tree_bind (yields_note_iff.mpr rfl),
        (build.serve_yields setup.notices first).tree_bind]
      refine ⟨fun _ => ?_, fun unannounced => absurd ⟨⟨line, wrote⟩, line', watches⟩ unannounced⟩
      -- Only a closing line may follow.
      split
      · exact isReadOnly_say _ _
      · rfl

/-- Once a watch has built its output, that is always the last product. However many notices are
handled, and whatever comes of each, the output is what the last build produced that found schema
files and went through, the first build included; a build that finds none, or fails at whatever
step, leaves the output as it was. Nobody else writes to the output, as `passes` says. -/
theorem watch_keeps_lastProduct
    (started : (startWatch setup directory output flags numbers).Yields tree (build, count) first)
    (found : count ≠ 0)
    (passes : ∀ notice ∈ setup.notices,
      notice.Passes tree.current (output.resolve tree.current)) :
    ∃ data, build.product? (setup.compiler [directory]) tree = some data ∧
      (∀ handled, handled <+: setup.notices →
        (build.afterAll first handled).content? (output.resolve tree.current) =
          some (lastProduct data (build.products first handled))) ∧
      (∀ handled notice, handled ++ [notice] <+: setup.notices →
        (schemaFiles (notice.happening (build.afterAll first handled)) directory = .ok [] ∨
          ∃ failure, (build.run (notice.compiler [directory])
            (notice.happening (build.afterAll first handled))).result = .error failure) →
        (build.afterAll first (handled ++ [notice])).content? (output.resolve tree.current) =
          (build.afterAll first handled).content? (output.resolve tree.current)) ∧
      (Announced count directory output →
        (keepBuilt setup directory output flags numbers tree).tree =
          build.afterAll first setup.notices) ∧
      (¬Announced count directory output →
        (keepBuilt setup directory output flags numbers tree).tree = first) := by
  obtain ⟨rfl, rfl, stays, data, produced, held⟩ := startWatch_content started found
  rw [← stays] at passes held ⊢
  have after : ∀ handled, handled <+: setup.notices →
      (build.afterAll first handled).current = first.current ∧
        (build.afterAll first handled).content? (build.output.resolve first.current) =
          some (lastProduct data (build.products first handled)) :=
    fun handled front =>
      Build.afterAll_content held fun notice member => passes notice (front.mem member)
  refine ⟨data, produced, fun handled front => (after handled front).2, ?_,
    keepBuilt_tree started⟩
  intro handled notice front idle
  have member : notice ∈ setup.notices := front.mem (by simp)
  have earlier := (after handled ((List.prefix_append _ _).trans front)).1
  have calm := passes notice member
  rw [← earlier] at calm ⊢
  have nothing : build.productAfter? notice (build.afterAll first handled) = none :=
    Build.product?_eq_none idle
  rw [Build.afterAll, List.foldl_append]
  exact (Build.handle_content calm).2.trans (by rw [nothing]; rfl)

/-! ### A small watch -/

/-- One schema file below a directory. -/
def watchedTree : FileTree :=
  workspaceOf [("s/a.proto", "")]

/-- The descriptor of that file. -/
def bareFile : Descriptor.Message :=
  [.text 1 (Text.encode "a.proto".toList)]

/-- First a compiler that knows of no file, then nothing left to compile. -/
def watchedSetup : Setup where
  variableText := none
  compiler includes :=
    Compile.Table.compiler [("a.proto".toList, bareFile)] (includes.headD standardInclude)
  notices :=
    [{ happening := id, paths := [], compiler := bareSetup.compiler },
      { happening := fun tree => tree.removeFile [['w'], ['s'], "a.proto".toList]
        paths := []
        compiler := bareSetup.compiler }]

def watchedBuild : Build where
  directory := Path.ofText ['s']
  output := Path.ofText "out".toList
  ids := .uniform Description.standardNumber
  flags := {}

/-- The set of that one file, in which nothing is embedded. -/
def bareSet : Bytes :=
  Descriptor.Message.encode [.message 1 bareFile]

theorem embedSet_bareSet :
    (Description.embedSet watchedBuild.ids {} bareSet).result = .ok bareSet := by
  have plain : Description.isStandard bareFile = false := by cbv
  have settles : (Description.embedMember watchedBuild.ids {} bareFile).result = .ok bareFile := by
    refine Description.embedMember_ok_iff.mpr ⟨by cbv, ?_⟩
    rw [plain]
    exact ⟨0, _, by cbv, rfl⟩
  exact Description.embedSet_ok_iff.mpr
    ⟨[.message 1 bareFile], _, by cbv, .cons (.file settles) .nil, by cbv, rfl⟩

theorem watched_embedded :
    (embedFiles (watchedSetup.compiler [Path.ofText ['s']]) [Path.ofText "s/a.proto".toList]
      watchedBuild.ids {}).Yields watchedTree bareSet watchedTree := by
  have compiled : ((watchedSetup.compiler [Path.ofText ['s']]).compile watchedTree
      (Job.embedRequest [Path.ofText "s/a.proto".toList])) = .ok bareSet := by
    cbv
  refine yields_bind_iff.mpr ⟨bareSet, _, yields_inspect_iff.mpr ⟨compiled, rfl⟩, ?_⟩
  refine yields_bind_iff.mpr ⟨(), _, yields_note_iff.mpr rfl, ?_⟩
  exact yields_ofLogged_iff.mpr ⟨mapError_eq_ok_iff.mpr embedSet_bareSet, rfl⟩

theorem watched_started :
    (startWatch watchedSetup (Path.ofText ['s']) (Path.ofText "out".toList) {} fun _ => none).Yields
      watchedTree (watchedBuild, 1) (watchedTree.setFile [['w'], "out".toList] bareSet) := by
  refine startWatch_yields_iff.mpr
    ⟨.uniform Description.standardNumber, chooseIds_unset rfl _, by cbv, rfl, ?_⟩
  have found : schemaFiles watchedTree watchedBuild.directory =
      .ok [Path.ofText "s/a.proto".toList] := by
    cbv
  refine (isReadOnly_inspect _).yields_bind_iff.mpr ⟨_, found, ?_⟩
  refine yields_bind_iff.mpr ⟨bareSet, _, watched_embedded, ?_⟩
  exact yields_bind_iff.mpr ⟨(), _, ⟨by cbv, by cbv⟩, yields_pure_iff.mpr ⟨rfl, rfl⟩⟩

/-- A watch whose first build is its last good one. -/
theorem watch_keeps_lastProduct_bareSet :
    (startWatch watchedSetup (Path.ofText ['s']) (Path.ofText "out".toList) {} fun _ => none).Yields
      watchedTree (watchedBuild, 1) (watchedTree.setFile [['w'], "out".toList] bareSet) ∧
    1 ≠ 0 ∧
    (∀ notice ∈ watchedSetup.notices, notice.Passes watchedTree.current
      ((Path.ofText "out".toList).resolve watchedTree.current)) ∧
    ∃ data, watchedBuild.product? (watchedSetup.compiler [Path.ofText ['s']]) watchedTree =
        some data ∧
      ∀ handled, handled <+: watchedSetup.notices →
        (watchedBuild.afterAll (watchedTree.setFile [['w'], "out".toList] bareSet)
            handled).content? ((Path.ofText "out".toList).resolve watchedTree.current) =
          some (lastProduct data (watchedBuild.products
            (watchedTree.setFile [['w'], "out".toList] bareSet) handled)) := by
  have place : (Path.ofText "out".toList).resolve watchedTree.current =
      [['w'], "out".toList] := by
    cbv
  have passes : ∀ notice ∈ watchedSetup.notices, notice.Passes watchedTree.current
      ((Path.ofText "out".toList).resolve watchedTree.current) := by
    rw [place]
    intro notice member
    rcases List.mem_pair.mp member with rfl | rfl
    · exact fun tree here => ⟨here, rfl⟩
    · exact fun tree here => ⟨here, FileTree.content?_removeFile_ne tree (by decide)⟩
  obtain ⟨data, produced, kept, _⟩ :=
    watch_keeps_lastProduct watched_started (by decide) passes
  exact ⟨watched_started, by decide, passes, data, produced, kept⟩

end SchemaDoc.CommandLine
