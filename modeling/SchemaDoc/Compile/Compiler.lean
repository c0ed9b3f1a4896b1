import SchemaDoc.Failure

/-!
# Compilers

A compiler turns schema files that lie below its include root into a descriptor set. One that
works from a table has the descriptor of every file beforehand, under the name that the file has
below the root.
-/
namespace SchemaDoc.Compile

open Descriptor (Entry Message)
open Text (Bytes)
open Workspace (FileTree Path)

/-- What a compiler is asked for. -/
structure Request where
  files : List Path
  includeImports : Bool
  includeSourceInfo : Bool
  deriving DecidableEq, Repr

/-- A compiler, with the directory that files are named from. -/
structure Compiler where
  root : Path
  compile : FileTree → Request → Except Failure Bytes

/-- Descriptors by the name of their file. -/
abbrev Table := List (List Char × Message)

namespace Table

/-- Give a file a descriptor. -/
def set (table : Table) (name : List Char) (descriptor : Message) : Table :=
  (name, descriptor) :: table.filter fun row => row.1 != name

/-- The descriptor of a file that is named from a root. -/
def descriptor (table : Table) (tree : FileTree) (root file : Path) : Except Failure Message :=
  match tree.resolve file, tree.resolve root with
  | .ok place, .ok base =>
    match Path.below? base place with
    | none => .error (.outsideRoot place base)
    | some parts =>
      match table.lookup (Path.relativeText parts) with
      | none => .error (.missingFile file)
      | some descriptor => .ok descriptor
  | .error failure, _ | _, .error failure => .error (.system failure)

/-- The compiler that answers from a table. Imports are never added. -/
def compiler (table : Table) (root : Path) : Compiler where
  root := root
  compile tree request := do
    let descriptors ← request.files.mapM (table.descriptor tree root)
    let kept (descriptor : Message) : Message :=
      if request.includeSourceInfo then descriptor else descriptor.clear 9
    let set : Message := descriptors.map fun descriptor => Entry.message 1 (kept descriptor)
    (set.serialize .fileSet).mapError .unwritable

end Table

end SchemaDoc.Compile
