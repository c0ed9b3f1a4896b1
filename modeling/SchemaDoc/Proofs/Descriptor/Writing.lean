import SchemaDoc.Proofs.Descriptor.Address
import SchemaDoc.Proofs.Descriptor.Rereading

/-!
# What is read back for certain

A message that has the form is read back from its bytes unless something in it is too long, or
lies too deep. The second cannot be where the types nest only a few levels, as those of options do.
So bytes that write options are read as these options, and by any reader that declares other
fields as the same records.
-/
namespace SchemaDoc.Descriptor

open Text (Bytes)

/-- Messages of the type have no more levels inside each other, itself included. -/
def MessageType.nestsWithin : Nat → MessageType → Bool
  | 0, _ => false
  | levels + 1, type => type.fields.all fun spec =>
    match spec.kind with
    | .message inner => inner.nestsWithin levels
    | _ => true

/-- What a reader that declares repeated strings under one number, and no other field, finds in
bytes, if they can be read. -/
def carried (number : Nat) (bytes : Bytes) : Option (List Bytes) :=
  match Wire.readRecords (levelLimit - 1) bytes with
  | (records, []) => some (Message.delimited number (records.map .unknown))
  | _ => none

variable {levels : Nat} {type : MessageType}

/-! ### Levels -/

theorem MessageType.nestsWithin_child {number : Nat} {spec : FieldSpec} {inner : MessageType}
    (nests : type.nestsWithin (levels + 1) = true) (known : type.field? number = some spec)
    (kind : spec.kind = .message inner) : inner.nestsWithin levels = true := by
  have each := List.all_eq_true.mp nests spec (MessageType.field?_eq_some.mp known).1
  simpa only [kind] using each

theorem MessageType.nestsWithin_options (options : type.isOptions = true) :
    type.nestsWithin levelLimit = true := by
  revert options
  cases type <;> decide

/-! ### Lengths -/

theorem Entry.size_le (entry : Entry) : entry.size ≤ entry.encode.length := by
  have behind : ∀ number content,
      content.length ≤ (Wire.encodeDelimited number content).length := by
    intro number content
    rw [Wire.encodeDelimited, List.length_append]
    exact Nat.le_add_left _ _
  cases entry with
  | packed number values =>
    rw [encode]
    split
    next empty => simp [size, List.isEmpty_iff.mp empty]
    next => exact behind number _
  | text number content => exact behind number content
  | message number content => exact behind number _
  | scalar | fixed64 | unknown => exact Nat.zero_le _

/-- No entry is longer than all of them together. -/
theorem size_lt_of_encodeAll {entries : List Entry}
    (short : (encodeAll entries).length < Wire.sizeLimit) :
    ∀ entry ∈ entries, entry.size < Wire.sizeLimit := by
  intro entry member
  obtain ⟨front, back, rfl⟩ := List.append_of_mem member
  have own := entry.size_le
  simp only [encodeAll_eq_flatMap, List.flatMap_append, List.flatMap_cons,
    List.length_append] at short
  omega

/-! ### Reading back -/

/-- Where the types nest only so deep, and nothing is too long, a message is read back. -/
theorem mergeWithin_encodeAll_of_short (nests : type.nestsWithin levels = true)
    (before : List Entry) {after : List Entry} (canonical : Canonical levels type (before ++ after))
    (short : ∀ entry ∈ after, entry.size < Wire.sizeLimit) :
    mergeWithin levels type before (encodeAll after) = { message := before ++ after } := by
  -- Along the levels, and on each along the entries that are still to be read.
  induction levels generalizing type before after with
  | zero => cases nests
  | succ levels ih =>
    induction after generalizing before with
    | nil =>
      rw [encodeAll, mergeWithin_stop (Wire.readRecord_nil levels), List.append_nil]
      rfl
    | cons entry rest more =>
      have next := readRecord_entry (canonical.2 entry (by simp)) (short entry (by simp))
        (encodeAll rest)
      have stores := storeRecord_entry canonical (by
        rintro number content spec inner rfl known kind form
        have inside : (encodeAll content).length < Wire.sizeLimit := short _ List.mem_cons_self
        rw [ih (MessageType.nestsWithin_child nests known kind) [] form
          (size_lt_of_encodeAll inside)]
        exact ⟨rfl, rfl⟩)
      rw [encodeAll, mergeWithin_stores next stores,
        more _ (by simpa using canonical) fun other member => short other (by simp [member])]
      simp

theorem decode_encode_of_short (nests : type.nestsWithin levelLimit = true) {message : Message}
    (canonical : Canonical levelLimit type message)
    (short : ∀ entry ∈ message, entry.size < Wire.sizeLimit) :
    decode type message.encode = .ok message := by
  rw [decode, Message.merge, Message.encode,
    mergeWithin_encodeAll_of_short nests [] canonical short]
  rfl

/-! ### Other readers -/

theorem delimited?_record {Inner : MessageType → Message → Prop} {depth : Nat} {entry : Entry}
    (fits : entry.Fits Inner depth type) (number : Nat) :
    (Entry.unknown entry.record).delimited? number = entry.delimited? number := by
  cases entry with
  | packed found values =>
    -- Only a packed list without values shows otherwise than its record, and none has that form.
    obtain ⟨_, _, _, filled, _⟩ := fits
    by_cases here : found = number <;>
      simp [Entry.delimited?, Entry.record, Wire.delimitedRecord, filled, here]
  | scalar | fixed64 | text | message | unknown => rfl

theorem readRecords_encodeAll {Inner : MessageType → Message → Prop} {depth : Nat}
    {entries : List Entry} (fits : ∀ entry ∈ entries, entry.Fits Inner depth type)
    (short : ∀ entry ∈ entries, entry.size < Wire.sizeLimit) :
    Wire.readRecords depth (encodeAll entries) = (entries.map Entry.record, []) := by
  induction entries with
  | nil => exact Wire.readRecords_nil depth
  | cons entry rest ih =>
    have next := readRecord_entry (fits entry (by simp)) (short entry (by simp)) (encodeAll rest)
    have others := ih (fun other member => fits other (by simp [member]))
      fun other member => short other (by simp [member])
    rw [encodeAll, Wire.readRecords_of_some next, others]
    rfl

/-- Any reader of strings finds what the message writes under their number. -/
theorem carried_encode {message : Message} (canonical : Canonical levelLimit type message)
    (short : ∀ entry ∈ message, entry.size < Wire.sizeLimit) (number : Nat) :
    carried number message.encode = some (message.delimited number) := by
  have fits : ∀ entry ∈ message, entry.Fits (Canonical 100) 100 type := canonical.2
  have read : Wire.readRecords (levelLimit - 1) message.encode =
      (message.map Entry.record, []) := readRecords_encodeAll fits short
  have same : Message.delimited number ((message.map Entry.record).map .unknown) =
      message.delimited number := by
    rw [Message.delimited, List.map_map, List.filterMap_map]
    exact List.filterMap_congr fun entry member => delimited?_record (fits entry member) number
  rw [carried, read]
  exact congrArg some same

end SchemaDoc.Descriptor
