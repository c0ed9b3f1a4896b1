import SchemaDoc.Description.Ids
import SchemaDoc.Descriptor.Decoding
import SchemaDoc.Descriptor.Requirement
import SchemaDoc.Text.Quoted

/-!
# Descriptions in options

Descriptions are kept in an options message as delimited records under one number. The options
type usually does not declare that number, so the records are unknown to it and come after its
own fields. They are found in what the options are written as, so options that are missing
required fields are not read from. Appending merges one record into the options as if it had been
read, so under a number that the type does declare the text is taken for a value of the declared
field.
-/
namespace SchemaDoc.Description

open Descriptor (DecodeError EncodeError EntityKind Message MessageType)
open Text (Bytes)

/-- The descriptions stored under a number, in stored order. -/
def read (options : Message) (number : Nat) : List Bytes :=
  options.delimited number

/-- The descriptions stored under a number in the options of an entity, if it has options. -/
def readOwned (kind : EntityKind) (descriptor : Message) (number : Nat) : List Bytes :=
  match descriptor.child? kind.optionsTag with
  | some options => read options number
  | none => []

/-- Read the descriptions stored under a number from what the options are written as. -/
def retrieve (type : MessageType) (options : Message) (number : Nat) :
    Except EncodeError (List Bytes) :=
  (options.serialize type).map fun _ => read options number

/-- Read the descriptions stored under a number in the options of an entity, if it has options. -/
def retrieveOwned (kind : EntityKind) (descriptor : Message) (number : Nat) :
    Except EncodeError (List Bytes) :=
  match descriptor.child? kind.optionsTag with
  | some options => retrieve kind.optionsType options number
  | none => .ok []

/-- Why a description cannot be stored. -/
inductive StoreError where
  /-- The options cannot be written, so it is not known what they hold. -/
  | unwritable (error : EncodeError)
  /-- The description is not text. -/
  | notText
  /-- The description is no value of the field that the options type declares. -/
  | decode (error : DecodeError)
  deriving DecidableEq, Repr

/-- The options after an attempt to append a description, and whether it was added. What the
options took in before a fault stays in them. -/
structure Appending where
  options : Message
  added : Except StoreError Bool

/-- Append a description under a number unless the same one is already there. -/
def append (type : MessageType) (options : Message) (number : Nat) (description : Bytes) :
    Appending :=
  match retrieve type options number with
  | .error error => { options, added := .error (.unwritable error) }
  | .ok stored =>
    if description ∈ stored then { options, added := .ok false }
    else if (Text.decode description).isNone then { options, added := .error .notText }
    else
      let reading := options.merge type (Wire.encodeDelimited number description)
      match reading.fault with
      | some fault => { options := reading.message, added := .error (.decode { type, fault }) }
      | none => { options := reading.message, added := .ok true }

/-- Why descriptions cannot be kept under a number. -/
inductive CarrierError where
  /-- No field has the number. -/
  | invalidNumber (number : Int)
  /-- The number cannot be part of a name. -/
  | invalidName (number : Int)
  /-- The number does not fit into 32 bits. -/
  | outOfRange (number : Int)
  deriving DecidableEq, Repr

/-- What is said of a number that descriptions cannot be kept under. -/
def CarrierError.message : CarrierError → String
  | .invalidNumber number =>
    "Couldn't build proto file into descriptor pool: invalid field number (" ++
      toString number ++ ")"
  | .invalidName number =>
    "Couldn't build proto file into descriptor pool: invalid name: non-alphanumeric character " ++
      "(proto_doc.carrier.n" ++ toString number ++ ")"
  | .outOfRange number => "Value out of range: " ++ toString number

/-- The largest number of 32 bits with a sign. -/
def maxInt32 : Int := 0x7FFFFFFF

/-- Check a number that did not come from settings. -/
def carrierNumber (number : Int) : Except CarrierError Nat :=
  if number > maxInt32 then .error (.outOfRange number)
  else if number < -maxInt32 - 1 then .error (.outOfRange number)
  else if number < 0 then .error (.invalidName number)
  else if number = 0 ∨ number > maxNumber then .error (.invalidNumber number)
  else .ok number.toNat

end SchemaDoc.Description
