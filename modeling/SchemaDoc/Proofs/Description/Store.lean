import SchemaDoc.Description.Embedding
import SchemaDoc.Proofs.Distinct
import SchemaDoc.Proofs.Wire.Record

/-!
# What appending stores

Under a number that the options type does not declare, a description is kept as one more record
behind everything that the options hold, unless it is there already. The descriptions that are
read back are then those from before and the new one.
-/
namespace SchemaDoc.Description

open Descriptor (EncodeError EntityKind Message MessageType Reading)
open Text (Bytes)

/-- No kind has a number that the type of its options declares. -/
def Ids.AreUndeclared (ids : Ids) : Prop :=
  ∀ kind number, ids.forKind kind = some number →
    kind.optionsType.declares number.value = false

/-- The descriptions stored under a number in options, if there are any options. -/
def stored (number : OptionNumber) (options : Option Message) : List Bytes :=
  match options with
  | some options => read options number.value
  | none => []

/-- The entry that keeps a description under a number. -/
abbrev entryOf (number : OptionNumber) (description : Bytes) : Descriptor.Entry :=
  .unknown (Wire.delimitedRecord number.value description)

/-- Options after one more description, which is not stored twice. -/
def receive (number : OptionNumber) (options : Option Message) (description : Bytes) :
    Option Message :=
  if (stored number options).contains description then options
  else some (options.getD [] ++ [entryOf number description])

theorem readOwned_eq_stored (kind : EntityKind) (descriptor : Message) (number : OptionNumber) :
    readOwned kind descriptor number.value = stored number (descriptor.child? kind.optionsTag) := by
  rw [readOwned]
  cases descriptor.child? kind.optionsTag <;> rfl

theorem stored_getD (number : OptionNumber) (options : Option Message) :
    read (options.getD []) number.value = stored number options := by
  cases options <;> rfl

theorem read_append_entryOf (options : Message) (number : OptionNumber) (description : Bytes) :
    read (options ++ [entryOf number description]) number.value =
      read options number.value ++ [description] := by
  simp [read, Message.delimited, Descriptor.Entry.delimited?, Wire.delimitedRecord]

theorem receive_of_mem {number : OptionNumber} {options : Option Message} {description : Bytes}
    (present : description ∈ stored number options) :
    receive number options description = options :=
  if_pos (List.contains_iff_mem.mpr present)

theorem receive_of_notMem {number : OptionNumber} {options : Option Message}
    {description : Bytes} (absent : description ∉ stored number options) :
    receive number options description =
      some (options.getD [] ++ [entryOf number description]) :=
  if_neg (absent ∘ List.contains_iff_mem.mp)

theorem stored_receive (number : OptionNumber) (options : Option Message) (description : Bytes) :
    stored number (receive number options description) =
      addNew (stored number options) description := by
  by_cases present : description ∈ stored number options
  · rw [receive_of_mem present, addNew_of_mem present]
  · rw [receive_of_notMem present, addNew_of_notMem present, stored, read_append_entryOf,
      stored_getD]

theorem stored_foldl_receive (number : OptionNumber) (options : Option Message)
    (descriptions : List Bytes) :
    stored number (descriptions.foldl (receive number) options) =
      addAllNew (stored number options) descriptions := by
  induction descriptions generalizing options with
  | nil => rfl
  | cons description rest ih => rw [List.foldl_cons, ih, stored_receive, addAllNew_cons]

/-- Options take in nothing that they have already. -/
theorem foldl_receive_known {number : OptionNumber} {options : Option Message}
    {descriptions : List Bytes}
    (known : ∀ description ∈ descriptions, description ∈ stored number options) :
    descriptions.foldl (receive number) options = options := by
  induction descriptions with
  | nil => rfl
  | cons description rest ih =>
    rw [List.foldl_cons, receive_of_mem (known description (by simp))]
    exact ih fun other member => known other (by simp [member])

/-- Merging a record that the type does not declare puts it behind the rest. One that is too long
is refused. -/
theorem merge_encodeDelimited {type : MessageType} {number : OptionNumber}
    (undeclared : type.declares number.value = false) (options : Message) (content : Bytes) :
    options.merge type (Wire.encodeDelimited number.value content) =
      if content.length < Wire.sizeLimit then { message := options ++ [entryOf number content] }
      else { message := options, fault := some .corrupt } := by
  have bounded : number.value < 0x20000000 := Nat.lt_succ_of_le number.bounded
  have unknown := MessageType.field?_eq_none_iff.mpr undeclared
  rw [Message.merge, Descriptor.levelLimit, Descriptor.mergeWithin,
    Wire.readRecords_encodeDelimited _ number.positive bounded]
  by_cases short : content.length < Wire.sizeLimit
  · rw [if_pos short, if_pos short]
    simp [Message.storeRecords, Message.storeRecord, Wire.delimitedRecord, unknown]
  · -- What is left of a record that nothing declares is dropped.
    have cut : Message.storeCutOff type options (Wire.encodeDelimited number.value content) =
        options := by
      rw [Message.storeCutOff, Wire.encodeDelimited, List.append_assoc, List.append_assoc,
        Wire.readTag_encodeTag bounded]
      simp only [unknown]
    have left := Wire.encodeDelimited_ne_nil number.value content
    rw [if_neg short, if_neg short]
    simp [Message.storeRecords, left, cut]

/-- What is stored is told by options that can be written, and by no others. -/
theorem retrieve_eq (type : MessageType) (options : Message) (number : Nat) :
    retrieve type options number =
      if options.IsComplete type then .ok (read options number)
      else .error { type, missing := options.missing type } := by
  rw [retrieve, Message.serialize_eq]
  split <;> rfl

theorem retrieve_of_complete {type : MessageType} {options : Message}
    (complete : options.IsComplete type) (number : Nat) :
    retrieve type options number = .ok (read options number) := by
  rw [retrieve_eq, if_pos complete]

theorem append_of_incomplete {type : MessageType} {options : Message}
    (incomplete : ¬options.IsComplete type) (number : Nat) (description : Bytes) :
    append type options number description =
      { options, added := .error (.unwritable { type, missing := options.missing type }) } := by
  rw [append, retrieve_eq, if_neg incomplete]

/-- Options that can be written are asked for the description, and take it in if they lack it. -/
theorem append_of_complete {type : MessageType} {options : Message}
    (complete : options.IsComplete type) (number : Nat) (description : Bytes) :
    append type options number description =
      if description ∈ read options number then { options, added := .ok false }
      else if (Text.decode description).isNone then { options, added := .error .notText }
      else
        let reading := options.merge type (Wire.encodeDelimited number description)
        { options := reading.message
          added := reading.fault.elim (.ok true) fun fault => .error (.decode { type, fault }) } := by
  rw [append, retrieve_of_complete complete]
  dsimp only
  cases (options.merge type (Wire.encodeDelimited number description)).fault <;> rfl

/-- Only options that can be written take anything in. -/
theorem complete_of_append {type : MessageType} {options after : Message} {number : Nat}
    {description : Bytes} {added : Bool}
    (appended : append type options number description = { options := after, added := .ok added }) :
    options.IsComplete type := by
  by_contra incomplete
  rw [append_of_incomplete incomplete] at appended
  cases appended

/-- If options can be written, it is known what they hold. -/
theorem append_ne_unwritable {type : MessageType} {options : Message}
    (complete : options.IsComplete type) (number : Nat) (description : Bytes)
    (error : EncodeError) :
    (append type options number description).added ≠ .error (.unwritable error) := by
  rw [append_of_complete complete]
  split
  · nofun
  · split
    · nofun
    · dsimp only
      cases (options.merge type (Wire.encodeDelimited number description)).fault <;> nofun

/-- What appending does under a number that the type does not declare, to options that can be
written. -/
theorem append_eq {type : MessageType} {number : OptionNumber}
    (undeclared : type.declares number.value = false) {options : Message}
    (complete : options.IsComplete type) (description : Bytes) :
    append type options number.value description =
      if description ∈ read options number.value then { options, added := .ok false }
      else if (Text.decode description).isNone then { options, added := .error .notText }
      else if description.length < Wire.sizeLimit then
        { options := options ++ [entryOf number description], added := .ok true }
      else { options, added := .error (.decode { type, fault := .corrupt }) } := by
  rw [append_of_complete complete, merge_encodeDelimited undeclared]
  by_cases short : description.length < Wire.sizeLimit
  · simp only [if_pos short, Option.elim]
  · simp only [if_neg short, Option.elim]

/-- Describing an entity either finds the description there or sets the options with one more. -/
theorem describe_eq_ok {kind : EntityKind} {entity after : Message} {number : OptionNumber}
    {comment : Bytes} {grown : Bool} (undeclared : kind.optionsType.declares number.value = false)
    (done : describe kind entity number comment = .ok (grown, after)) :
    (comment ∈ stored number (entity.child? kind.optionsTag) ∧ grown = false ∧ after = entity) ∨
    (comment ∉ stored number (entity.child? kind.optionsTag) ∧ (Text.decode comment).isSome ∧
      comment.length < Wire.sizeLimit ∧ grown = true ∧ after = entity.setChild kind.optionsTag
        ((entity.child? kind.optionsTag).getD [] ++ [entryOf number comment])) := by
  by_cases complete : ((entity.child? kind.optionsTag).getD []).IsComplete kind.optionsType
  case neg =>
    rw [describe, append_of_incomplete complete] at done
    cases done
  simp only [describe, append_eq undeclared complete, stored_getD] at done
  by_cases present : comment ∈ stored number (entity.child? kind.optionsTag)
  · rw [if_pos present] at done
    cases done
    exact Or.inl ⟨present, rfl, rfl⟩
  · rw [if_neg present] at done
    by_cases text : (Text.decode comment).isNone
    · rw [if_pos text] at done
      cases done
    · rw [if_neg text] at done
      by_cases short : comment.length < Wire.sizeLimit
      · rw [if_pos short] at done
        cases done
        exact Or.inr ⟨present, by simpa [Option.isSome_iff_ne_none] using text, short, rfl, rfl⟩
      · rw [if_neg short] at done
        cases done

end SchemaDoc.Description
