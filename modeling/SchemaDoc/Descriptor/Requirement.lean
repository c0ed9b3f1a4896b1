import SchemaDoc.Descriptor.Message
import SchemaDoc.Descriptor.Schema

/-!
# Required fields

A message can be written only if the required fields are set in it and in all messages nested in
it. Reading asks for nothing of the kind. One that cannot be written is told by the ways to the
fields that are missing: first its own, then those of the messages in it, in written order.
-/
namespace SchemaDoc.Descriptor

open Text (Bytes)

/-- The way from a message to a field in it, by the names on it. -/
abbrev FieldPath := List String

/-- The name of a nested message on a way; those of a repeated field are counted from zero. -/
def FieldSpec.step (spec : FieldSpec) (index : Nat) : String :=
  match spec.occurrence with
  | .single => spec.name
  | .repeated | .packed => spec.name ++ "[" ++ toString index ++ "]"

/-- The required fields of its own that a message does not set. -/
def Message.unset (type : MessageType) (message : Message) : List FieldPath :=
  (type.fields.filter fun spec => spec.label = .required && !message.has spec.number).map
    fun spec => [spec.name]

mutual

/-- The required fields that are missing from the message in an entry, given the entries before
it. -/
def Entry.missing (type : MessageType) (before : Message) : Entry → List FieldPath
  | .message number content =>
    match type.field? number with
    | none => []
    | some spec =>
      match spec.kind with
      | .message inner =>
        -- The number of earlier messages of the field is the index of this one.
        (Message.unset inner content ++ missingWithin inner [] content).map fun path =>
          spec.step (before.entries number).length :: path
      | _ => []
  | _ => []

/-- The required fields that are missing from the messages in entries, given those before them. -/
def missingWithin (type : MessageType) (before : Message) : List Entry → List FieldPath
  | [] => []
  | entry :: rest => entry.missing type before ++ missingWithin type (before ++ [entry]) rest

end

/-- The ways to the required fields that a message is missing. -/
def Message.missing (type : MessageType) (message : Message) : List FieldPath :=
  message.unset type ++ missingWithin type [] message

/-- Whether all required fields are set, in the message and in those nested in it. -/
def Message.IsComplete (type : MessageType) (message : Message) : Prop :=
  message.missing type = []

instance (type : MessageType) (message : Message) : Decidable (message.IsComplete type) :=
  inferInstanceAs (Decidable (message.missing type = []))

/-- A message that cannot be written. -/
structure EncodeError where
  type : MessageType
  missing : List FieldPath
  deriving DecidableEq, Repr

/-- What is said of a message that cannot be written. -/
def EncodeError.message (error : EncodeError) : String :=
  "Message " ++ error.type.fullName ++ " is missing required fields: " ++
    String.intercalate "," (error.missing.map (String.intercalate "."))

/-- The bytes that write a message of a type, unless required fields are missing. -/
def Message.serialize (type : MessageType) (message : Message) : Except EncodeError Bytes :=
  match message.missing type with
  | [] => .ok message.encode
  | missing => .error { type, missing }

theorem Message.serialize_eq (type : MessageType) (message : Message) :
    message.serialize type =
      if message.IsComplete type then .ok message.encode
      else .error { type, missing := message.missing type } := by
  rw [serialize]
  split
  next complete => exact (if_pos complete).symm
  next incomplete => exact (if_neg incomplete).symm

theorem Message.serialize_ok_iff {type : MessageType} {message : Message} {bytes : Bytes} :
    message.serialize type = .ok bytes ↔ message.IsComplete type ∧ bytes = message.encode := by
  rw [serialize_eq]
  split <;> simp [*, eq_comm]

end SchemaDoc.Descriptor
