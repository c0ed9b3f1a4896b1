import SchemaDoc.Failure

/-!
# Paths from the home directory

A path that the user writes may start from a home directory: the user's own, or that of another
user who is named.
-/
namespace SchemaDoc.Workspace

/-- The home directory of a user, who is the user of the workspace if there is no name. -/
def FileTree.homeOf (tree : FileTree) (user : List Char) : Option Place :=
  if user.isEmpty then some tree.home else tree.homes.lookup user

/-- A path with a tilde in front read as the home directory. -/
def expandHome (tree : FileTree) (path : Path) : Except Failure Path :=
  match path.expandUser tree.homeOf with
  | some expanded => .ok expanded
  | none =>
    if (path.parts.headD []).contains '\x00' then
      .error (.system { fault := .nullCharacter, path })
    else .error .unknownHome

/-- The place that a path names, with a tilde in front read as the home directory. -/
def settle (tree : FileTree) (path : Path) : Except Failure Place := do
  (tree.resolve (← expandHome tree path)).mapError .system

end SchemaDoc.Workspace
