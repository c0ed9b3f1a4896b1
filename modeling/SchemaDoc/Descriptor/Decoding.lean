import SchemaDoc.Descriptor.Message
import SchemaDoc.Descriptor.Schema

/-!
# Decoding messages

Bytes are merged into a message record by record. A record that the type declares in this form
becomes an entry, any other is kept as it came. Reading stops at the first fault, and what was
read before it stays in the message. A record that the bytes end in the middle of is read as if
zeros followed, so that a number or the presence of a string in it stays, too.
-/
namespace SchemaDoc.Descriptor

open Text (Bytes)

/-- Why bytes are not a message. -/
inductive Fault where
  /-- The bytes do not follow the wire format. -/
  | corrupt
  /-- Messages are nested too deep. -/
  | tooDeep
  deriving DecidableEq, Repr

/-- What is said of a fault. -/
def Fault.message : Fault → String
  | .corrupt => "Wire format was corrupt"
  | .tooDeep => "Exceeded upb_DecodeOptions_MaxDepth"

/-- A message, and what stopped the reading if anything did. -/
structure Reading where
  message : Message
  fault : Option Fault := none

/-- How many levels of messages and groups may be nested, the outermost message included. -/
def levelLimit : Nat := 101

/-- The zeros that are read behind the end of the bytes. -/
def padding : Bytes := List.replicate 16 0

/-- The integer that a word of 64 bits means in a field, unless it is an enum number that is not
listed. -/
def FieldKind.admit? (kind : FieldKind) (word : Nat) : Option Int :=
  match kind with
  | .bool => some (if word = 0 then 0 else 1)
  | .int32 => some (Int.bmod word Wire.size32)
  | .int64 => some (Int.bmod word Wire.size64)
  | .uint64 => some (word : Int)
  | .enumeration type =>
    let value := Int.bmod word Wire.size32
    if value ∈ type.listed then some value else none
  | .double | .string | .bytes | .message _ => none

/-- Whether a field's values are written as variable-length integers. -/
def FieldKind.isScalar : FieldKind → Bool
  | .bool | .int32 | .int64 | .uint64 | .enumeration _ => true
  | .double | .string | .bytes | .message _ => false

/-- Store one number in a field. -/
def Message.storeNumber (spec : FieldSpec) (message : Message) (value : Int) : Message :=
  match spec.occurrence with
  | .single => message.update spec.number fun _ => .scalar spec.number value
  | .repeated => message.add spec.number (.scalar spec.number value)
  | .packed =>
    message.update spec.number fun
      | some (.packed _ values) => .packed spec.number (values ++ [value])
      | _ => .packed spec.number [value]

/-- Store a word in a field. An enum number that is not listed is kept as the record given. -/
def Message.storeWord (spec : FieldSpec) (unlisted : Wire.Record) (message : Message)
    (word : Nat) : Message :=
  match spec.kind.admit? word with
  | none => message ++ [.unknown unlisted]
  | some value => message.storeNumber spec value

/-- Store one of several words that stood together. -/
def Message.storePacked (spec : FieldSpec) (message : Message) (word : Nat) : Message :=
  let word := word % Wire.size64
  message.storeWord spec (Wire.varintRecord spec.number word) word

/-- Store a string or bytes in a field. -/
def Message.storeText (spec : FieldSpec) (message : Message) (content : Bytes) : Message :=
  match spec.occurrence with
  | .single => message.update spec.number fun _ => .text spec.number content
  | .repeated | .packed => message.add spec.number (.text spec.number content)

/-- Store a nested message. A field that occurs once merges into what it holds. -/
def Message.storeChild (spec : FieldSpec) (read : Message → Reading) (message : Message) :
    Reading :=
  match spec.occurrence with
  | .single =>
    let reading := read ((message.child? spec.number).getD [])
    { message := message.setChild spec.number reading.message, fault := reading.fault }
  | .repeated | .packed =>
    let reading := read []
    { message := message.add spec.number (.message spec.number reading.message)
      fault := reading.fault }

/-- Store one record. -/
def Message.storeRecord (readChild : MessageType → Message → Bytes → Reading) (type : MessageType)
    (message : Message) (record : Wire.Record) : Reading :=
  match type.field? record.number with
  | none => { message := message ++ [.unknown record] }
  | some spec =>
    match spec.kind, record.payload with
    | .message child, .delimited content =>
      message.storeChild spec fun held => readChild child held content
    | .string, .delimited content | .bytes, .delimited content =>
      { message := message.storeText spec content }
    | .double, .fixed64 content =>
      { message := message.update spec.number fun _ => .fixed64 spec.number content }
    | kind, .varint word =>
      if kind.isScalar then { message := message.storeWord spec record word }
      else { message := message ++ [.unknown record] }
    | kind, .delimited content =>
      if kind.isScalar && spec.occurrence != .single then
        let (words, rest) := Wire.readVarints content
        let stored := words.foldl (Message.storePacked spec) message
        if rest.isEmpty then { message := stored }
        else
          { message := match Wire.readVarint 10 (rest ++ padding) with
              | none => stored
              | some (word, _) => stored.storePacked spec word
            fault := some .corrupt }
      else { message := message ++ [.unknown record] }
    | _, _ => { message := message ++ [.unknown record] }

/-- Store what can be told of a record that the bytes end in the middle of. Nothing is kept of one
that the type does not declare. -/
def Message.storeCutOff (type : MessageType) (message : Message) (rest : Bytes) : Message :=
  match Wire.readTag (rest ++ padding) with
  | none => message
  | some ((number, wireType), after) =>
    match type.field? number with
    | none => message
    | some spec =>
      match spec.kind, wireType with
      | .message _, .delimited =>
        if (Wire.readSize after).isNone then message
        else (message.storeChild spec fun held => { message := held }).message
      | .string, .delimited | .bytes, .delimited =>
        if (Wire.readSize after).isNone || (spec.occurrence = .single && message.has number) then
          message
        else message.storeText spec []
      | .double, .fixed64 => message.update number fun _ => .fixed64 number (after.take 8)
      | kind, .varint =>
        match (Wire.readVarint 10 after).bind fun found => kind.admit? (found.1 % Wire.size64) with
        | none => message
        | some value => message.storeNumber spec value
      | _, _ => message

/-- Store records until one is at fault; `rest` is what follows them. -/
def Message.storeRecords (readChild : MessageType → Message → Bytes → Reading) (type : MessageType)
    (rest : Bytes) : Message → List Wire.Record → Reading
  | message, [] =>
    if rest.isEmpty then { message }
    else { message := message.storeCutOff type rest, fault := some .corrupt }
  | message, record :: more =>
    let reading := message.storeRecord readChild type record
    match reading.fault with
    | some _ => reading
    | none => storeRecords readChild type rest reading.message more

/-- Merge bytes into a message, with so many levels left to go down. -/
def mergeWithin : Nat → MessageType → Message → Bytes → Reading
  | 0, _, message, _ => { message, fault := some .tooDeep }
  | levels + 1, type, message, bytes =>
    let (records, rest) := Wire.readRecords levels bytes
    message.storeRecords (mergeWithin levels) type rest records

/-- Merge bytes into a message. -/
def Message.merge (type : MessageType) (message : Message) (bytes : Bytes) : Reading :=
  mergeWithin levelLimit type message bytes

/-- Bytes that could not be read as a message of a type. -/
structure DecodeError where
  type : MessageType
  fault : Fault
  deriving DecidableEq, Repr

/-- What is said of bytes that are no message. -/
def DecodeError.message (error : DecodeError) : String :=
  "Error parsing message with type '" ++ error.type.fullName ++ "': " ++ error.fault.message

/-- Read bytes as a message of a type. -/
def decode (type : MessageType) (bytes : Bytes) : Except DecodeError Message :=
  let reading := Message.merge type [] bytes
  match reading.fault with
  | some fault => .error { type, fault }
  | none => .ok reading.message

end SchemaDoc.Descriptor
