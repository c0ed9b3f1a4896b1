import SchemaDoc.CommandLine.Arguments
import SchemaDoc.CommandLine.Session
import SchemaDoc.Job.Extract
import SchemaDoc.Watch.Watcher

/-!
# Running commands

The option numbers are settled first, then files are selected, compiled and written, and the user
is told what was written. A watch builds once, and then a watcher asks for another build on every
notice of changes; a build that fails keeps what was written before.
-/
namespace SchemaDoc.CommandLine

open Compile (Compiler)
open Description (EmbedFlags Ids Setting)
open Descriptor (EntityKind)
open Job (JobAction embedData embedFiles extractFiles readFile schemaFiles selectAll writeOutput)
open Watch (Batch)
open Watch.Watcher (startEntry stopEntry takeBatch)
open Workspace (Action FileTree Path)

/-- A notice of changes while a directory is watched: what happened to the files before it, the
paths it names, and the compiler that works from then on. -/
structure Notice where
  happening : FileTree → FileTree
  paths : List Path
  compiler : List Path → Compiler

/-- What a command works with: the environment variable for the default number, the compiler for
include directories, and for a watch its notices and whether the user interrupts it. -/
structure Setup where
  variableText : Option (List Char)
  compiler : List Path → Compiler
  notices : List Notice := []
  interrupted : Bool := false

/-- A number as a setting. -/
def Numbers.setting (numbers : Numbers) (kind : EntityKind) : Setting :=
  match numbers kind with
  | some value => .integer value
  | none => .absent

/-- Settle the option numbers. -/
def chooseIds (setup : Setup) (numbers : Numbers) : JobAction Ids :=
  Action.inspect fun _ =>
    match Ids.choose setup.variableText (Numbers.setting numbers) with
    | .ok ids => .ok ids
    | .error (.settings error) => .error (.badNumbers numbers error)
    | .error (.default error) => .error (.badDefault error)

/-- The include directory when none is given. -/
def standardInclude : Path := Path.ofText ".".toList

/-- The compiler for the include directories that were given. -/
def Setup.compilerFor (setup : Setup) (includes : List Path) : Compiler :=
  setup.compiler (if includes.isEmpty then [standardInclude] else includes)

/-- The line about a descriptor set that was written. -/
def wroteSet (count : Nat) (output : Path) : String :=
  "[green]Wrote[/green] descriptor set for " ++ toString count ++ " file(s) to " ++ output.display

/-- Write the descriptor set of files with their comments embedded; gives the number of files. -/
def embedPatterns (setup : Setup) (patterns : List Word) (output : Path) (includes : List Path)
    (flags : EmbedFlags) (numbers : Numbers) : JobAction Nat := do
  let ids ← chooseIds setup numbers
  let files ← Action.inspect fun tree => selectAll tree patterns
  let data ← embedFiles (setup.compilerFor includes) files ids flags
  writeOutput output data
  return files.length

/-- Write a descriptor set again with its comments embedded. -/
def embedStored (setup : Setup) (source output : Path) (flags : EmbedFlags) (numbers : Numbers) :
    JobAction Unit := do
  let ids ← chooseIds setup numbers
  let data ← readFile source
  writeOutput output (← embedData ids flags data)

/-- Write schema files again with their descriptions as comments. -/
def extractPatterns (setup : Setup) (patterns : List Word) (output : Path) (includes : List Path)
    (numbers : Numbers) : JobAction (List Path) := do
  let ids ← chooseIds setup numbers
  let files ← Action.inspect fun tree => selectAll tree patterns
  extractFiles (setup.compilerFor includes) output ids files

/-- A directory that is kept built. -/
structure Build where
  directory : Path
  output : Path
  ids : Ids
  flags : EmbedFlags

/-- Write the descriptor set of every schema file below the directory; gives the number of files.
Without schema files nothing is written. -/
def Build.run (build : Build) (compiler : Compiler) : JobAction Nat := do
  let files ← Action.inspect fun tree => schemaFiles tree build.directory
  if files.isEmpty then
    Action.note
      { level := .warning, message := "No schema files under " ++ build.directory.display }
    return 0
  else
    let data ← embedFiles compiler files build.ids build.flags
    writeOutput build.output data
    return files.length

/-- Settle what a watch keeps built, and build it once. -/
def startWatch (setup : Setup) (directory output : Path) (flags : EmbedFlags)
    (numbers : Numbers) : JobAction (Build × Nat) := do
  let ids ← chooseIds setup numbers
  Action.inspect fun tree => do
    if (← (tree.probe directory).mapError .system) = some .directory then return ()
    else .error (.missingDirectory directory)
  let build : Build := { directory, output, ids, flags }
  let count ← build.run (setup.compiler [directory])
  return (build, count)

/-- Build again, and tell the user what came of it. -/
def Build.renew (build : Build) (compiler : Compiler) (paths : Batch) : Session Unit := do
  match ← attempt (build.run compiler) with
  | .ok count =>
    say ("[green]Rebuilt[/green] " ++ build.output.display ++ " after " ++
      toString paths.length ++ " change(s) (" ++ toString count ++ " file(s))")
  | .error failure =>
    if failure.isExpected then
      report failure
      say ("[yellow]Kept[/yellow] previous " ++ build.output.display)
    else crash failure

/-- Let a watcher take the paths of a notice. Where the rebuild ends early the watch goes on. -/
def Build.handle (build : Build) (notice : Notice) : Session Unit := do
  Action.change fun tree => .ok (notice.happening tree)
  takeBatch (fun entry => Action.note (.logged entry))
    (fun paths => endsEarly (build.renew (notice.compiler [build.directory]) paths)) notice.paths

/-- Let a watcher take one notice after another. -/
def Build.handleAll (build : Build) : List Notice → Session Unit
  | [] => pure ()
  | notice :: rest => do
    build.handle notice
    build.handleAll rest

/-- Let a watcher run from its start to its stop. -/
def Build.serve (build : Build) (notices : List Notice) : Session Unit := do
  Action.note (.logged (startEntry build.directory))
  build.handleAll notices
  Action.note (.logged (stopEntry build.directory))

/-- The line about a watch that begins. -/
def watchesLine (directory : Path) : String :=
  "Watching " ++ directory.display ++ " (Ctrl+C to stop)"

/-- Keep a directory built by way of what serves the notices. -/
def keepBuiltBy (serve : Build → List Notice → Session Unit) (setup : Setup)
    (directory output : Path) (flags : EmbedFlags) (numbers : Numbers) : Session Unit := do
  let (build, count) ← require (startWatch setup directory output flags numbers)
  say (wroteSet count output)
  say (watchesLine directory)
  serve build setup.notices
  if setup.interrupted then say "Stopped."

/-- Keep a directory built. -/
def keepBuilt (setup : Setup) (directory output : Path) (flags : EmbedFlags) (numbers : Numbers) :
    Session Unit :=
  keepBuiltBy Build.serve setup directory output flags numbers

/-- Tell the user of files that were written. -/
def sayWritten : List Path → Session Unit
  | [] => pure ()
  | path :: rest => do
    say ("[green]Wrote[/green] " ++ path.display)
    sayWritten rest

/-- Run a command. -/
def Command.run (setup : Setup) : Command → Session Unit
  | .embed patterns output includes flags numbers => do
    let count ← require (embedPatterns setup patterns output includes flags numbers)
    say (wroteSet count output)
  | .embedSet source output flags numbers => do
    require (embedStored setup source output flags numbers)
    sayWritten [output]
  | .extract patterns output includes numbers => do
    let written ← require (extractPatterns setup patterns output includes numbers)
    sayWritten written
  | .watch directory output flags numbers => keepBuilt setup directory output flags numbers

/-- What is left of running the program. -/
structure Outcome where
  tree : FileTree
  /-- Zero if all went well, one after a failure, two for a command line that makes no sense. -/
  status : Nat
  log : List LogEntry := []
  output : List Char := []
  errors : List Char := []
  crash : Option Crash := none

/-- What is left of a session. Only urgent entries are logged unless more is asked for. -/
def Outcome.ofEnding (verbose : Bool) (ending : Workspace.Ending Event Halt Unit) : Outcome where
  tree := ending.tree
  status := match ending.result with
    | .ok () => 0
    | .error _ => 1
  log := (ending.notes.filterMap Event.entry?).filter fun entry => verbose || entry.level.isUrgent
  output := ending.notes.flatMap Event.output
  errors := ending.notes.flatMap Event.errors
  crash := match ending.result with
    | .error (.crashed crash) => some crash
    | _ => none

/-- Run the program on a request. -/
def Request.run (setup : Setup) (request : Request) (tree : FileTree) : Outcome :=
  match request with
  | .help => { tree, status := 0 }
  | .misuse => { tree, status := 2 }
  | .command verbose chosen => Outcome.ofEnding verbose (chosen.run setup tree)

end SchemaDoc.CommandLine
