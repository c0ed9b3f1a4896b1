import SchemaDoc.Wire.Record

/-!
# Messages

A message is the list of its entries in the order in which they are written: the fields that its
type declares, ascending by number, then the records that it does not declare, as they came.
Entries of a repeated field keep their order.
-/
namespace SchemaDoc.Descriptor

open Text (Bytes)

/-- One entry of a message. -/
inductive Entry where
  /-- A bool, an enum number or an integer. -/
  | scalar (number : Nat) (value : Int)
  /-- All the numbers of a packed field. -/
  | packed (number : Nat) (values : List Int)
  /-- Eight bytes of a floating-point number. -/
  | fixed64 (number : Nat) (content : Bytes)
  /-- A string, which need not be text, or bytes. -/
  | text (number : Nat) (content : Bytes)
  /-- A nested message. -/
  | message (number : Nat) (content : List Entry)
  /-- A record that the message type does not declare. -/
  | unknown (record : Wire.Record)

/-- The entries of a message, in written order. -/
abbrev Message := List Entry

/-- The number of a declared field. -/
def Entry.number? : Entry → Option Nat
  | .scalar number _ | .packed number _ | .fixed64 number _ | .text number _
  | .message number _ => some number
  | .unknown _ => none

/-- Whether an entry is of a declared field with a number. -/
def Entry.isField (number : Nat) (entry : Entry) : Bool :=
  entry.number? == some number

namespace Message

/-- The entries of a declared field. -/
def entries (number : Nat) (message : Message) : List Entry :=
  message.filter (Entry.isField number)

/-- Whether a declared field is set. -/
def has (number : Nat) (message : Message) : Bool :=
  message.any (Entry.isField number)

/-- The nested message that an entry of a field holds. -/
def childOf? (number : Nat) : Entry → Option Message
  | .message found content => if found = number then some content else none
  | _ => none

/-- The string or bytes that an entry of a field holds. -/
def textOf? (number : Nat) : Entry → Option Bytes
  | .text found content => if found = number then some content else none
  | _ => none

/-- The number that an entry of a field holds. -/
def scalarOf? (number : Nat) : Entry → Option Int
  | .scalar found value => if found = number then some value else none
  | _ => none

/-- The nested messages of a field, in order. -/
def children (number : Nat) (message : Message) : List Message :=
  message.filterMap (childOf? number)

/-- The nested message of a field that occurs once. -/
def child? (number : Nat) (message : Message) : Option Message :=
  (message.children number).head?

/-- The strings of a field, in order. -/
def texts (number : Nat) (message : Message) : List Bytes :=
  message.filterMap (textOf? number)

/-- The string of a field that occurs once. -/
def text? (number : Nat) (message : Message) : Option Bytes :=
  (message.texts number).head?

/-- The string of a field that occurs once; unset is empty. -/
def text (number : Nat) (message : Message) : Bytes :=
  (message.text? number).getD []

/-- The number of a field that occurs once; unset is zero. -/
def scalar (number : Nat) (message : Message) : Int :=
  ((message.filterMap (scalarOf? number)).head?).getD 0

/-- The numbers of a packed field. -/
def numbers (number : Nat) (message : Message) : List Int :=
  message.flatMap fun
    | .packed found values => if found = number then values else []
    | _ => []

/-- Set a field that occurs once, given what it held. It goes behind the fields with smaller
numbers. -/
def update (number : Nat) (change : Option Entry → Entry) : Message → Message
  | [] => [change none]
  | entry :: rest =>
    match entry.number? with
    | some found =>
      if found < number then entry :: update number change rest
      else if found = number then change (some entry) :: rest
      else change none :: entry :: rest
    | none => change none :: entry :: rest

/-- Add an entry of a repeated field behind those that are there. -/
def add (number : Nat) (added : Entry) : Message → Message
  | [] => [added]
  | entry :: rest =>
    match entry.number? with
    | some found =>
      if found ≤ number then entry :: add number added rest else added :: entry :: rest
    | none => added :: entry :: rest

/-- Unset a declared field. -/
def clear (number : Nat) (message : Message) : Message :=
  message.filter fun entry => !entry.isField number

/-- Set the nested message of a field that occurs once. -/
def setChild (message : Message) (number : Nat) (content : Message) : Message :=
  message.update number fun _ => .message number content

/-- Change one of the nested messages of a field, counted from zero. -/
def modifyNth (number : Nat) (change : Message → Message) : Nat → Message → Message
  | _, [] => []
  | index, entry :: rest =>
    match childOf? number entry, index with
    | some content, 0 => .message number (change content) :: rest
    | some _, index + 1 => entry :: modifyNth number change index rest
    | none, index => entry :: modifyNth number change index rest

end Message

/-- The unsigned number of 64 bits that stands for an integer on the wire. -/
def toWord (value : Int) : Nat :=
  (value % Wire.size64).toNat

mutual

/-- The bytes that write an entry. -/
def Entry.encode : Entry → Bytes
  | .scalar number value => Wire.encodeTag number .varint ++ Wire.encodeVarint (toWord value)
  | .packed number values =>
    if values.isEmpty then []
    else Wire.encodeDelimited number (values.flatMap fun value => Wire.encodeVarint (toWord value))
  | .fixed64 number content => Wire.encodeTag number .fixed64 ++ content
  | .text number content => Wire.encodeDelimited number content
  | .message number content => Wire.encodeDelimited number (encodeAll content)
  | .unknown record => record.raw

/-- The bytes that write entries one after another. -/
def encodeAll : List Entry → Bytes
  | [] => []
  | entry :: rest => entry.encode ++ encodeAll rest

end

/-- The bytes that write a message. -/
def Message.encode (message : Message) : Bytes :=
  encodeAll message

theorem encodeAll_eq_flatMap (entries : List Entry) :
    encodeAll entries = entries.flatMap Entry.encode := by
  induction entries with
  | nil => rfl
  | cons entry rest ih => rw [encodeAll, ih, List.flatMap_cons]

/-- The delimited bytes that an entry writes under a number, if it writes any: a string, a nested
message, packed numbers or a record of that kind. -/
def Entry.delimited? (number : Nat) : Entry → Option Bytes
  | .text found content => if found = number then some content else none
  | .message found content => if found = number then some (encodeAll content) else none
  | .packed found values =>
    if found = number ∧ values ≠ [] then
      some (values.flatMap fun value => Wire.encodeVarint (toWord value))
    else none
  | .unknown record =>
    match record.payload with
    | .delimited content => if record.number = number then some content else none
    | _ => none
  | .scalar _ _ | .fixed64 _ _ => none

/-- Everything delimited that a message writes under a number, in written order. -/
def Message.delimited (number : Nat) (message : Message) : List Bytes :=
  message.filterMap (Entry.delimited? number)

end SchemaDoc.Descriptor
