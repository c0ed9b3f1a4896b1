import SchemaDoc.Job.Selection

/-!
# Changes that matter

A watch passes on changes of schema files only. It leaves out those inside directories that tools
keep for themselves, and the files that editors and checkers put beside the file they work on.
-/
namespace SchemaDoc.Watch

open Job (schemaSuffix)
open Workspace (Part splitAt)

/-- The directories that tools keep for themselves. -/
def ignoredDirectories : List Part :=
  ["__pycache__", ".git", ".hg", ".svn", ".tox", ".venv", ".idea", "node_modules", ".mypy_cache",
    ".pytest_cache", ".hypothesis"].map String.toList

/-- What the names of files beside a schema file start with. The other names of that sort do not
end as the name of a schema file does. -/
def companionMarks : List Part :=
  [".#", "flycheck_"].map String.toList

/-- The parts of a watched path. -/
def watchedParts (path : List Char) : List Part :=
  splitAt '/' (path.dropWhile (· == '/'))

/-- Whether a change at a path matters. -/
def matters (path : List Char) : Bool :=
  let parts := watchedParts path
  schemaSuffix.isSuffixOf path &&
    !parts.any ignoredDirectories.contains &&
    !companionMarks.any fun mark => mark.isPrefixOf (parts.getLast?.getD [])

end SchemaDoc.Watch
