import SchemaDoc.Proofs.CommandLine.Watching

/-!
# What a served watch logs

A watch that is kept up serves its notices as a watcher takes its batches: the rebuilds are the
watcher's, a rebuild that ends early is one that the watcher logs as failed, and between the
entries of the watcher stand those of the builds.
-/
namespace SchemaDoc.CommandLine

open Watch (Batch Watcher)
open Watch.Watcher (changeEntry failureEntry startEntry stopEntry takeBatch)
open Workspace (Action FileTree)
open Workspace.Action

variable {tree after : FileTree}

/-- Whether the rebuild that a notice calls for ends early. -/
def Build.failsAfter (build : Build) (notice : Notice) (tree : FileTree) : Bool :=
  !(build.renew (notice.compiler [build.directory]) notice.paths.eraseDups
    (notice.happening tree)).result.isOk

/-- Which of the rebuilds after notices end early, in order. -/
def Build.failures (build : Build) : FileTree → List Notice → List Bool
  | _, [] => []
  | tree, notice :: rest =>
    build.failsAfter notice tree :: build.failures (build.handle notice tree).tree rest

/-- The watcher on the directory, told of notices. -/
def Build.watcher (build : Build) (tree : FileTree) (notices : List Notice) : Watcher where
  directory := build.directory
  batches := notices.map Notice.paths
  failures := build.failures tree notices

theorem notes_takeBatch {rebuild : Batch → Session Bool} {batch : Batch} {failed : Bool}
    (run : (rebuild batch.eraseDups).Yields tree failed after) :
    (takeBatch (fun entry => Action.note (.logged entry)) rebuild batch tree).notes =
      .logged (changeEntry batch.eraseDups) :: ((rebuild batch.eraseDups tree).notes ++
        if failed then [.logged (failureEntry batch.eraseDups)] else []) := by
  have noted : (note (.logged (changeEntry batch.eraseDups)) : Session Unit).Yields tree () tree :=
    yields_note_iff.mpr rfl
  refine (noted.notes_bind _).trans ?_
  rw [run.notes_bind]
  cases failed <;> rfl

/-- A notice is logged by the watcher, and between its two entries by the build. -/
theorem Build.handle_log (build : Build) (notice : Notice) (tree : FileTree) :
    (build.handle notice tree).notes.filterMap Event.entry? =
      changeEntry notice.paths.eraseDups ::
        ((build.renew (notice.compiler [build.directory]) notice.paths.eraseDups
            (notice.happening tree)).notes.filterMap Event.entry? ++
          if build.failsAfter notice tree then [failureEntry notice.paths.eraseDups] else []) := by
  have happened : (change fun tree => .ok (notice.happening tree) : Session Unit).Yields tree ()
      (notice.happening tree) := yields_change_iff.mpr rfl
  have rebuilt : (endsEarly (build.renew (notice.compiler [build.directory])
      notice.paths.eraseDups)).Yields (notice.happening tree) (build.failsAfter notice tree) _ :=
    ⟨rfl, rfl⟩
  rw [Build.handle, happened.notes_bind, notes_takeBatch rebuilt]
  refine congrArg (changeEntry notice.paths.eraseDups :: ·) (List.filterMap_append.trans ?_)
  congr 1
  split <;> rfl

/-- Taking notices, a watcher logs nothing that is not logged of them. -/
theorem Build.handleAll_log (build : Build) (notices : List Notice) (tree : FileTree)
    (watcher : Watcher) (same : watcher.failures = build.failures tree notices) :
    ∃ told, ((notices.map Notice.paths).foldl Watcher.rebuild watcher).log = watcher.log ++ told ∧
      told.Sublist ((build.handleAll notices tree).notes.filterMap Event.entry?) := by
  induction notices generalizing tree watcher with
  | nil => exact ⟨[], (List.append_nil _).symm, .refl _⟩
  | cons notice rest ih =>
    have fails : watcher.failures.headD false = build.failsAfter notice tree := by
      rw [same]
      rfl
    -- The watcher has the outcomes of the later rebuilds left.
    have later : (watcher.rebuild notice.paths).failures =
        build.failures (build.handle notice tree).tree rest := by
      rw [Watcher.rebuild_eq, same]
      rfl
    obtain ⟨told, logged, among⟩ := ih (build.handle notice tree).tree _ later
    refine ⟨changeEntry notice.paths.eraseDups ::
      ((if build.failsAfter notice tree then [failureEntry notice.paths.eraseDups] else []) ++
        told), ?_, ?_⟩
    · rw [List.map_cons, List.foldl_cons, logged, Watcher.rebuild_eq, fails]
      simp only [List.append_assoc, List.cons_append, List.nil_append]
    · have first : (build.handle notice).Yields tree () (build.handle notice tree).tree :=
        ⟨(build.handle_yields notice tree).result, rfl⟩
      rw [Build.handleAll, first.notes_bind, List.filterMap_append, Build.handle_log,
        List.cons_append, List.append_assoc]
      exact ((List.Sublist.refl _).append among).trans (List.sublist_append_right _ _) |>.cons_cons _

theorem Build.serve_log (build : Build) (notices : List Notice) (tree : FileTree) :
    (build.serve notices tree).notes.filterMap Event.entry? =
      startEntry build.directory ::
        ((build.handleAll notices tree).notes.filterMap Event.entry? ++
          [stopEntry build.directory]) := by
  have started : (note (.logged (startEntry build.directory)) : Session Unit).Yields tree ()
      tree := yields_note_iff.mpr rfl
  rw [Build.serve, started.notes_bind, (build.handleAll_yields notices tree).notes_bind]
  exact congrArg (startEntry build.directory :: ·)
    (List.filterMap_append (l := (build.handleAll notices tree).notes))

/-- A served watch is a watcher that is started, waited for and stopped: it asks for one rebuild
for each notice, with every path once, and what the watcher logs is logged in its order, with what
the builds log in between. -/
theorem Build.serve_followsWatcher (build : Build) (notices : List Notice) (tree : FileTree) :
    ((build.watcher tree notices).run [.start, .wait, .stop]).rebuilds =
        notices.map (fun notice => notice.paths.eraseDups) ∧
      ((build.watcher tree notices).run [.start, .wait, .stop]).log.Sublist
        ((build.serve notices tree).notes.filterMap Event.entry?) := by
  constructor
  · exact (Watcher.rebuilds_foldl (notices.map Notice.paths) _).trans List.map_map
  · obtain ⟨told, logged, among⟩ := build.handleAll_log notices tree
      ({ build.watcher tree notices with stage := .pending }.note (startEntry build.directory)) rfl
    have watched : ((build.watcher tree notices).run [.start, .wait, .stop]).log =
        startEntry build.directory :: (told ++ [stopEntry build.directory]) := by
      refine (Watcher.log_round rfl).trans ?_
      rw [Build.watcher] at logged ⊢
      rw [logged]
      rfl
    rw [watched, Build.serve_log]
    exact (among.append (.refl _)).cons_cons _

end SchemaDoc.CommandLine
