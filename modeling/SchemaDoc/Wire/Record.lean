import SchemaDoc.Wire.Varint

/-!
# Records

A message on the wire is a sequence of records, each a tag and a payload. The tag holds a field
number and says how the payload is delimited. A record keeps the bytes it was read from, since a
record that means nothing to the reader is written back as it came.
-/
namespace SchemaDoc.Wire

open Text (Bytes)

/-- How a payload is delimited. -/
inductive WireType where
  | varint
  | fixed64
  | delimited
  | startGroup
  | endGroup
  | fixed32
  deriving DecidableEq, Repr

/-- The three low bits of a tag; two of the eight values mean nothing. -/
def WireType.ofCode? : Nat → Option WireType
  | 0 => some .varint
  | 1 => some .fixed64
  | 2 => some .delimited
  | 3 => some .startGroup
  | 4 => some .endGroup
  | 5 => some .fixed32
  | _ => none

/-- The three low bits of a tag. -/
def WireType.code : WireType → Nat
  | .varint => 0
  | .fixed64 => 1
  | .delimited => 2
  | .startGroup => 3
  | .endGroup => 4
  | .fixed32 => 5

theorem WireType.ofCode?_code (type : WireType) : ofCode? type.code = some type := by
  cases type <;> rfl

/-- What a record holds. The fields of a group are not looked into. -/
inductive Payload where
  | varint (value : Nat)
  | fixed64 (content : Bytes)
  | delimited (content : Bytes)
  | group
  | fixed32 (content : Bytes)
  deriving DecidableEq, Repr

/-- One record with the bytes that write it. -/
structure Record where
  number : Nat
  payload : Payload
  raw : Bytes
  deriving DecidableEq, Repr

/-- A tag has at most five groups and 32 bits. -/
def readTag (bytes : Bytes) : Option ((Nat × WireType) × Bytes) :=
  match readVarint 5 bytes with
  | none => none
  | some (tag, rest) =>
    if tag < size32 then (WireType.ofCode? (tag % 8)).map fun type => ((tag / 8, type), rest)
    else none

/-- Cut a stretch of known size off the front. -/
def takeExactly (size : Nat) (bytes : Bytes) : Option (Bytes × Bytes) :=
  if size ≤ bytes.length then some (bytes.take size, bytes.drop size) else none

/-- Sizes stay below this. -/
def sizeLimit : Nat := 0x80000000

/-- Read the size of a delimited payload. It has at most five groups. -/
def readSize (bytes : Bytes) : Option (Nat × Bytes) :=
  match readVarint 5 bytes with
  | none => none
  | some (size, rest) => if size < sizeLimit then some (size, rest) else none

/-- Read the payload of a record that is no group. -/
def readValue (type : WireType) (bytes : Bytes) : Option (Payload × Bytes) :=
  match type with
  | .varint => (readVarint 10 bytes).map fun found => (.varint (found.1 % size64), found.2)
  | .fixed64 => (takeExactly 8 bytes).map fun found => (.fixed64 found.1, found.2)
  | .fixed32 => (takeExactly 4 bytes).map fun found => (.fixed32 found.1, found.2)
  | .delimited =>
    (readSize bytes).bind fun size =>
      (takeExactly size.1 size.2).map fun found => (.delimited found.1, found.2)
  | .startGroup | .endGroup => none

theorem readTag_length {bytes rest : Bytes} {tag : Nat × WireType}
    (found : readTag bytes = some (tag, rest)) : rest.length < bytes.length := by
  simp only [readTag] at found
  split at found
  · simp at found
  next number after inner =>
    split at found
    · obtain ⟨type, _, same⟩ := Option.map_eq_some_iff.mp found
      simp only [Prod.mk.injEq] at same
      rw [← same.2]
      exact readVarint_length inner
    · simp at found

theorem readSize_length {bytes rest : Bytes} {size : Nat}
    (found : readSize bytes = some (size, rest)) : rest.length < bytes.length := by
  simp only [readSize] at found
  split at found
  · simp at found
  next inner =>
    split at found
    · simp only [Option.some.injEq, Prod.mk.injEq] at found
      rw [← found.2]
      exact readVarint_length inner
    · simp at found

theorem takeExactly_length {size : Nat} {bytes taken rest : Bytes}
    (found : takeExactly size bytes = some (taken, rest)) : rest.length ≤ bytes.length := by
  simp only [takeExactly] at found
  split at found
  · simp only [Option.some.injEq, Prod.mk.injEq] at found
    simp [← found.2]
  · simp at found

theorem readValue_length {type : WireType} {bytes rest : Bytes} {payload : Payload}
    (found : readValue type bytes = some (payload, rest)) : rest.length ≤ bytes.length := by
  cases type <;> simp only [readValue, Option.map_eq_some_iff, Option.bind_eq_some_iff,
    Prod.mk.injEq, reduceCtorEq] at found
  case varint =>
    obtain ⟨⟨number, after⟩, inner, _, rfl⟩ := found
    exact Nat.le_of_lt (readVarint_length inner)
  case fixed64 =>
    obtain ⟨⟨taken, after⟩, inner, _, rfl⟩ := found
    exact takeExactly_length inner
  case fixed32 =>
    obtain ⟨⟨taken, after⟩, inner, _, rfl⟩ := found
    exact takeExactly_length inner
  case delimited =>
    obtain ⟨⟨size, after⟩, inner, ⟨taken, last⟩, cut, _, rfl⟩ := found
    exact Nat.le_trans (takeExactly_length cut) (Nat.le_of_lt (readSize_length inner))

/-- Pass the rest of the open groups, innermost first. No more than `depth` may be open. -/
def skipGroups (depth : Nat) : List Nat → Bytes → Option Bytes
  | [], bytes => some bytes
  | number :: outer, bytes =>
    match _found : readTag bytes with
    | none => none
    | some ((inner, .endGroup), rest) =>
      if inner == number then skipGroups depth outer rest else none
    | some ((inner, .startGroup), rest) =>
      if outer.length + 1 < depth then skipGroups depth (inner :: number :: outer) rest else none
    | some ((_, type), rest) =>
      match _value : readValue type rest with
      | none => none
      | some (_, after) => skipGroups depth (number :: outer) after
termination_by _ bytes => bytes.length
decreasing_by
  · exact readTag_length ‹_›
  · exact readTag_length ‹_›
  · exact Nat.lt_of_le_of_lt (readValue_length ‹_›) (readTag_length ‹_›)

theorem skipGroups_length {depth : Nat} {groups : List Nat} {bytes rest : Bytes}
    (found : skipGroups depth groups bytes = some rest) : rest.length ≤ bytes.length := by
  fun_induction skipGroups depth groups bytes <;> simp_all
  case case3 ih =>
    have shorter := readTag_length ‹_›
    omega
  case case5 ih =>
    have shorter := readTag_length ‹_›
    omega
  case case8 ih =>
    have shorter := readTag_length ‹_›
    have value := readValue_length ‹_›
    omega

/-- The payload of a record and what follows it. Groups may be nested `depth` deep. -/
def readPayload (depth number : Nat) (type : WireType) (bytes : Bytes) :
    Option (Payload × Bytes) :=
  if type = .startGroup then
    if depth = 0 then none
    else (skipGroups depth [number] bytes).map fun after => (.group, after)
  else readValue type bytes

theorem readPayload_length {depth number : Nat} {type : WireType} {bytes rest : Bytes}
    {payload : Payload} (found : readPayload depth number type bytes = some (payload, rest)) :
    rest.length ≤ bytes.length := by
  simp only [readPayload] at found
  split at found
  · split at found
    · simp at found
    · obtain ⟨past, skipped, pair⟩ := Option.map_eq_some_iff.mp found
      simp only [Prod.mk.injEq] at pair
      rw [← pair.2]
      exact skipGroups_length skipped
  · exact readValue_length found

/-- The first record and what follows it. A field number of zero and an end without a start are
refused. -/
def readRecord (depth : Nat) (bytes : Bytes) : Option (Record × Bytes) :=
  match readTag bytes with
  | none => none
  | some ((number, type), rest) =>
    if number = 0 then none
    else
      (readPayload depth number type rest).map fun (payload, after) =>
        ({ number, payload, raw := bytes.take (bytes.length - after.length) }, after)

theorem readRecord_length {depth : Nat} {bytes rest : Bytes} {record : Record}
    (found : readRecord depth bytes = some (record, rest)) : rest.length < bytes.length := by
  simp only [readRecord] at found
  split at found
  · simp at found
  next number type after tagged =>
    have shorter := readTag_length tagged
    split at found
    · simp at found
    · obtain ⟨⟨payload, last⟩, inner, same⟩ := Option.map_eq_some_iff.mp found
      simp only [Prod.mk.injEq] at same
      rw [← same.2]
      exact Nat.lt_of_le_of_lt (readPayload_length inner) shorter

/-- The records at the start of the bytes, and what follows the last of them. -/
def readRecords (depth : Nat) (bytes : Bytes) : List Record × Bytes :=
  match _found : readRecord depth bytes with
  | none => ([], bytes)
  | some (record, rest) =>
    let more := readRecords depth rest
    (record :: more.1, more.2)
termination_by bytes.length
decreasing_by exact readRecord_length ‹_›

/-- A tag in its shortest form. -/
def encodeTag (number : Nat) (type : WireType) : Bytes :=
  encodeVarint (number * 8 + type.code)

/-- A payload behind its size. -/
def encodeDelimited (number : Nat) (content : Bytes) : Bytes :=
  encodeTag number .delimited ++ encodeVarint content.length ++ content

/-- The record that holds a number in its shortest form. -/
def varintRecord (number value : Nat) : Record :=
  { number, payload := .varint value
    raw := encodeTag number .varint ++ encodeVarint value }

/-- The record that holds delimited bytes with tag and size in their shortest forms. -/
def delimitedRecord (number : Nat) (content : Bytes) : Record :=
  { number, payload := .delimited content, raw := encodeDelimited number content }

end SchemaDoc.Wire
