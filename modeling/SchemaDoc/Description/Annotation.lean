import SchemaDoc.Descriptor.Location

/-!
# Annotations

A stored description was written in the source as an option entry, and the source information has
a location for the entry. These locations are found by path: at the path of the option, and one
step further where the option is repeated and its elements are numbered.
-/
namespace SchemaDoc.Description

open Descriptor (Location Path)

/-- Locations grouped by path. Paths stand in the order in which they first occur, and the
locations of one path in their own order. -/
abbrev LocationIndex := List (Path × List Location)

namespace LocationIndex

/-- File one more location. -/
def add (index : LocationIndex) (location : Location) : LocationIndex :=
  match index with
  | [] => [(location.path, [location])]
  | (path, filed) :: rest =>
    if path = location.path then (path, filed ++ [location]) :: rest
    else (path, filed) :: add rest location

/-- Group locations by path. -/
def ofLocations (locations : List Location) : LocationIndex :=
  locations.foldl add []

/-- The locations at a path. -/
def at? (index : LocationIndex) (path : Path) : List Location :=
  match index.find? (·.1 == path) with
  | some (_, filed) => filed
  | none => []

/-- The groups one step below a path, ordered by that step. -/
def elements (index : LocationIndex) (path : Path) : LocationIndex :=
  let below := index.filter fun group =>
    group.1.length == path.length + 1 && group.1.dropLast == path
  below.mergeSort fun first second => first.1.getLast?.getD 0 ≤ second.1.getLast?.getD 0

/-- The locations of the option entries at a path: those at the path itself, then those of its
elements. -/
def annotations (index : LocationIndex) (path : Path) : List Location :=
  index.at? path ++ (index.elements path).flatMap (·.2)

end LocationIndex

end SchemaDoc.Description
