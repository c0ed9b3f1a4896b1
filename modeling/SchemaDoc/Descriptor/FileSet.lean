import SchemaDoc.Descriptor.Message

/-!
# Sets of files

A compiled schema is written as a set of files. A file is found in it by name, and the first of
that name counts.
-/
namespace SchemaDoc.Descriptor

open Text (Bytes)

/-- The files of a set, in order. -/
def files (set : Message) : List Message :=
  set.children 1

/-- The first file of a set with a name. -/
def findFile? (set : Message) (name : List Char) : Option Message :=
  (files set).find? fun file => file.text 1 == Text.encode name

/-- What is said of a name that no file of a set has. -/
def missingFileMessage (name : List Char) : String :=
  "File '" ++ String.ofList name ++ "' not found in compiled descriptor set"

end SchemaDoc.Descriptor
