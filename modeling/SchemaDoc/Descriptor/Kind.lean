import SchemaDoc.Descriptor.Schema

/-!
# Kinds of entity

The entities of a schema that can carry a comment are its file and eight kinds of declaration.
Each kind keeps its options in a field of its own number, in a message of its own type.
-/
namespace SchemaDoc.Descriptor

/-- The kinds of entity that can carry a comment. -/
inductive EntityKind where
  | file
  | message
  | enum
  | service
  | method
  | field
  | enumValue
  | extension
  | oneof
  deriving DecidableEq, Repr

namespace EntityKind

/-- Every kind, in the order in which settings list them. -/
def all : List EntityKind :=
  [.file, .message, .enum, .service, .method, .field, .enumValue, .extension, .oneof]

theorem mem_all (kind : EntityKind) : kind ∈ all := by
  cases kind <;> simp [all]

/-- The name of a kind in settings. -/
def name : EntityKind → String
  | .file => "file"
  | .message => "message"
  | .enum => "enum"
  | .service => "service"
  | .method => "method"
  | .field => "field"
  | .enumValue => "enum_value"
  | .extension => "extension"
  | .oneof => "oneof"

/-- The number of the field that holds the options of an entity. -/
def optionsTag : EntityKind → Nat
  | .file => 8
  | .message => 7
  | .enum => 3
  | .service => 3
  | .method => 4
  | .field => 8
  | .enumValue => 3
  | .extension => 8
  | .oneof => 2

/-- The type of an entity's options. -/
def optionsType : EntityKind → MessageType
  | .file => .fileOptions
  | .message => .messageOptions
  | .enum => .enumOptions
  | .service => .serviceOptions
  | .method => .methodOptions
  | .field => .fieldOptions
  | .enumValue => .enumValueOptions
  | .extension => .fieldOptions
  | .oneof => .oneofOptions

/-- The type of the descriptor of an entity. -/
def descriptorType : EntityKind → MessageType
  | .file => .file
  | .message => .message
  | .enum => .enum
  | .service => .service
  | .method => .method
  | .field => .field
  | .enumValue => .enumValue
  | .extension => .field
  | .oneof => .oneof

/-- Whether an entity's options stand in brackets behind it rather than in statements inside it. -/
def isBracketed : EntityKind → Bool
  | .field | .enumValue | .extension => true
  | _ => false

/-- The options field that the schema declares for a kind has that number and that type. -/
theorem field?_optionsTag (kind : EntityKind) :
    (kind.descriptorType.field? kind.optionsTag).map (·.kind) =
      some (.message kind.optionsType) := by
  cases kind <;> rfl

end EntityKind

end SchemaDoc.Descriptor
