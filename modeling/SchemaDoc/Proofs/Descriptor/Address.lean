import SchemaDoc.Proofs.Descriptor.Declarations
import SchemaDoc.Proofs.Descriptor.Schema

/-!
# Addresses of nested messages

An address leads down a message by fields and indices. The type at its end goes by the fields
alone, and so does the entity whose options are reached, if they are those of an entity. Options
lie nowhere inside options.
-/
namespace SchemaDoc.Descriptor

/-- Steps down a message, each to one of the nested messages of a field. -/
abbrev Address := List (Nat × Nat)

/-- The message at an address. -/
def Message.at? : Address → Message → Option Message
  | [], message => some message
  | (number, index) :: rest, message => (message.children number)[index]?.bind (Message.at? rest)

/-- The type of the nested messages of a field. -/
def MessageType.child? (type : MessageType) (number : Nat) : Option MessageType :=
  (type.field? number).bind fun spec =>
    match spec.kind with
    | .message inner => some inner
    | _ => none

/-- The type of what is at an address in a message of a type. -/
def MessageType.at? : Address → MessageType → Option MessageType
  | [], type => some type
  | (number, _) :: rest, type => (type.child? number).bind (MessageType.at? rest)

/-- Whether the messages of a type are options. -/
def MessageType.isOptions : MessageType → Bool
  | .fileOptions | .messageOptions | .fieldOptions | .oneofOptions | .enumOptions
  | .enumValueOptions | .extensionRangeOptions | .serviceOptions | .methodOptions => true
  | _ => false

/-- The kind of the entity whose options are at an address. Ranges of numbers have options, too,
but are no entities. -/
def EntityKind.ownerAt? : Address → EntityKind → Option EntityKind
  | [], _ => none
  | [(number, _)], kind => if number = kind.optionsTag then some kind else none
  | (number, _) :: rest, kind => (kind.nested? number).bind (EntityKind.ownerAt? rest)

theorem MessageType.child?_eq_some {type inner : MessageType} {number : Nat} :
    type.child? number = some inner ↔
      (type.field? number).map (·.kind) = some (.message inner) := by
  rw [child?, Option.bind_eq_some_iff, Option.map_eq_some_iff]
  refine exists_congr fun spec => and_congr_right fun _ => ?_
  cases spec.kind <;> simp

theorem MessageType.at?_cons {type last : MessageType} {number index : Nat} {rest : Address} :
    type.at? ((number, index) :: rest) = some last ↔
      ∃ inner, type.child? number = some inner ∧ inner.at? rest = some last := by
  rw [at?, Option.bind_eq_some_iff]

theorem EntityKind.child?_optionsTag (kind : EntityKind) :
    kind.descriptorType.child? kind.optionsTag = some kind.optionsType :=
  MessageType.child?_eq_some.mpr kind.field?_optionsTag

theorem EntityKind.child?_of_nested? {kind child : EntityKind} {tag : Nat}
    (nested : kind.nested? tag = some child) :
    kind.descriptorType.child? tag = some child.descriptorType :=
  MessageType.child?_eq_some.mpr (EntityKind.field?_of_nested? nested)

theorem EntityKind.isOptions_optionsType (kind : EntityKind) :
    kind.optionsType.isOptions = true := by
  cases kind <;> rfl

theorem EntityKind.isOptions_descriptorType (kind : EntityKind) :
    kind.descriptorType.isOptions = false := by
  cases kind <;> rfl

/-- Below a declaration, the owner is the one that an address finds from there. -/
theorem EntityKind.ownerAt?_nested {kind child : EntityKind} {tag : Nat}
    (nested : kind.nested? tag = some child) (index : Nat) {step : Nat × Nat} {rest : Address} :
    kind.ownerAt? ((tag, index) :: step :: rest) = child.ownerAt? (step :: rest) := by
  rw [ownerAt?, nested, Option.bind_some]
  simp

/-! ### Where no options are -/

/-- Whether messages of a type are no options and have none inside. -/
def MessageType.isDetail : MessageType → Bool
  | .extensionDeclaration | .editionDefault | .featureSupport | .uninterpretedOption | .namePart
  | .featureSet | .sourceCodeInfo | .location => true
  | _ => false

theorem MessageType.isOptions_of_isDetail {type : MessageType} (detail : type.isDetail = true) :
    type.isOptions = false := by
  cases type <;> first | rfl | cases detail

theorem MessageType.isDetail_of_child? {type inner : MessageType} {number : Nat}
    (child : type.child? number = some inner) (outer : (type.isOptions || type.isDetail) = true) :
    inner.isDetail = true := by
  obtain ⟨spec, known, kind⟩ := Option.map_eq_some_iff.mp (child?_eq_some.mp child)
  have table : ∀ spec ∈ type.fields, (match spec.kind with
      | .message inner => inner.isDetail
      | _ => true) = true := by
    revert outer
    clear child known
    cases type <;> decide
  have held := table spec (MessageType.field?_eq_some.mp known).1
  simpa only [kind] using held

theorem MessageType.isOptions_at?_of_isDetail {type last : MessageType} {address : Address}
    (detail : type.isDetail = true) (found : type.at? address = some last) :
    last.isOptions = false := by
  induction address generalizing type with
  | nil =>
    cases found
    exact isOptions_of_isDetail detail
  | cons step rest ih =>
    obtain ⟨inner, child, found⟩ := at?_cons.mp found
    exact ih (isDetail_of_child? child (by simp [detail])) found

/-- No options lie inside options. -/
theorem MessageType.isOptions_below {type last : MessageType} {step : Nat × Nat} {rest : Address}
    (options : type.isOptions = true) (found : type.at? (step :: rest) = some last) :
    last.isOptions = false := by
  obtain ⟨inner, child, found⟩ := at?_cons.mp found
  exact isOptions_at?_of_isDetail (isDetail_of_child? child (by simp [options])) found

/-! ### Other nested messages -/

namespace Message

theorem at?_cons {message last : Message} {number index : Nat} {rest : Address} :
    message.at? ((number, index) :: rest) = some last ↔
      ∃ inner, (message.children number)[index]? = some inner ∧ inner.at? rest = some last := by
  rw [at?, Option.bind_eq_some_iff]

/-- Of the nested messages of a field, only the one that is replaced is another one. -/
theorem children_replace (front back : List Entry) (number index : Nat) :
    (∀ inner : Message,
      (children number (front ++ .message number inner :: back))[index]? = some inner) ∨
    (∃ other, ∀ inner : Message,
      (children number (front ++ .message number inner :: back))[index]? = other) := by
  have split : ∀ inner : Message, children number (front ++ .message number inner :: back) =
      children number front ++ inner :: children number back := by
    intro inner
    simp [children, childOf?]
  simp only [split]
  rcases Nat.lt_trichotomy index (children number front).length with before | here | after
  · exact Or.inr ⟨_, fun inner => List.getElem?_append_left before⟩
  · exact Or.inl fun inner => by simp [here]
  · obtain ⟨past, rfl⟩ := Nat.exists_eq_add_of_lt after
    refine Or.inr ⟨(children number back)[past]?, fun inner => ?_⟩
    rw [List.getElem?_append_right (by omega)]
    simp [Nat.add_assoc]

theorem children_replace_ne (front back : List Entry) {number other : Nat} (apart : other ≠ number)
    (first second : Message) :
    children other (front ++ .message number first :: back) =
      children other (front ++ .message number second :: back) := by
  simp [children, childOf?, apart.symm]

end Message

end SchemaDoc.Descriptor
