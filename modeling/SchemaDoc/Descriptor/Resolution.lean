import SchemaDoc.Descriptor.Kind
import SchemaDoc.Descriptor.Location

/-!
# Resolving paths

A path walks from a file to one of its declarations by pairs of a field number and an index.
Most paths lead to details that belong to no declaration and resolve to nothing. A path into the
options of a file, message, enum or service stops at the option that it names.
-/
namespace SchemaDoc.Descriptor

open Text (Bytes)

/-- The ranges of numbers that a declaration may set aside. -/
inductive RangeKind where
  | enumReserved
  | reserved
  | extension
  deriving DecidableEq, Repr

/-- What a path leads to. -/
inductive Resolution where
  /-- A declaration, with its descriptor. -/
  | declaration (kind : EntityKind) (descriptor : Message)
  /-- A set option that the options type declares, with its entries. -/
  | option (spec : FieldSpec) (entries : List Entry)
  /-- A range of numbers; `stop` is the first number after it. -/
  | range (kind : RangeKind) (start stop : Int)
  /-- A name that is not to be used. -/
  | reservedName (name : Bytes)

/-- What the field numbers inside a descriptor lead to. -/
inductive Member where
  | declarations (kind : EntityKind)
  | ranges (kind : RangeKind)
  | reservedNames
  | options (type : MessageType)
  deriving DecidableEq, Repr

/-- The members of an entity by field number; an entity that is a leaf has none. -/
def EntityKind.member? (kind : EntityKind) (tag : Int) : Option Member :=
  match kind, tag with
  | .file, 4 => some (.declarations .message)
  | .file, 5 => some (.declarations .enum)
  | .file, 6 => some (.declarations .service)
  | .file, 7 => some (.declarations .extension)
  | .file, 8 => some (.options .fileOptions)
  | .message, 2 => some (.declarations .field)
  | .message, 3 => some (.declarations .message)
  | .message, 4 => some (.declarations .enum)
  | .message, 5 => some (.ranges .extension)
  | .message, 6 => some (.declarations .extension)
  | .message, 7 => some (.options .messageOptions)
  | .message, 8 => some (.declarations .oneof)
  | .message, 9 => some (.ranges .reserved)
  | .message, 10 => some .reservedNames
  | .enum, 2 => some (.declarations .enumValue)
  | .enum, 3 => some (.options .enumOptions)
  | .enum, 4 => some (.ranges .enumReserved)
  | .enum, 5 => some .reservedNames
  | .service, 2 => some (.declarations .method)
  | .service, 3 => some (.options .serviceOptions)
  | _, _ => none

/-- The item at an index. -/
def nth? {Item : Type} (items : List Item) (index : Int) : Option Item :=
  if index < 0 then none else items[index.toNat]?

/-- The numbers that a range descriptor sets aside. The ranges of an enum include their end. -/
def Resolution.ofRange (kind : RangeKind) (descriptor : Message) : Resolution :=
  let last := descriptor.scalar 2
  .range kind (descriptor.scalar 1) (if kind = .enumReserved then last + 1 else last)

/-- The set option with a number, if its type declares one. -/
def resolveOption (type : MessageType) (options : Message) (number : Int) : Option Resolution := do
  if number < 0 then none
  else
    let spec ← type.field? number.toNat
    let entries := options.entries spec.number
    if entries.isEmpty then none else some (.option spec entries)

/-- What a path leads to from inside a descriptor. -/
def resolveFrom (kind : EntityKind) (descriptor : Message) : Path → Option Resolution
  | tag :: index :: rest =>
    match kind.member? tag with
    | none => none
    | some (.declarations child) =>
      match nth? (descriptor.children tag.toNat) index with
      | none => none
      | some found =>
        if rest.isEmpty then some (.declaration child found) else resolveFrom child found rest
    | some (.ranges range) =>
      if rest.isEmpty then
        (nth? (descriptor.children tag.toNat) index).map (Resolution.ofRange range)
      else none
    | some .reservedNames =>
      if rest.isEmpty then (nth? (descriptor.texts tag.toNat) index).map .reservedName else none
    | some (.options type) =>
      (descriptor.child? tag.toNat).bind fun options => resolveOption type options index
  | _ => none

/-- What a path leads to in a file. -/
def resolve (file : Message) (path : Path) : Option Resolution :=
  resolveFrom .file file path

/-- The declaration that a path leads to. -/
def resolveDeclaration (file : Message) (path : Path) : Option (EntityKind × Message) :=
  match resolve file path with
  | some (.declaration kind descriptor) => some (kind, descriptor)
  | _ => none

/-- Change the descriptor at a path of nested messages. -/
def modifyAt (change : Message → Message) (path : Path) (descriptor : Message) : Message :=
  match path with
  | tag :: index :: rest =>
    descriptor.modifyNth tag.toNat (modifyAt change rest) index.toNat
  | _ => change descriptor

end SchemaDoc.Descriptor
