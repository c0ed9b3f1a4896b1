import SchemaDoc.Descriptor.Requirement
import SchemaDoc.Proofs.Descriptor.Address
import SchemaDoc.Proofs.Descriptor.Canonical

/-!
# When nothing is missing

Only the parts of the names of uninterpreted options have required fields. So a message is complete
if those in it are, which is kept where a nested message makes way for a complete one, and options
are complete if their uninterpreted options are. In most messages below options, and in source
information, nothing can be missing.
-/
namespace SchemaDoc.Descriptor

variable {type inner : MessageType} {message : Message} {number : Nat}

/-- Nothing is missing from the message in an entry, if it is one of a declared field. -/
def Entry.IsComplete (type : MessageType) : Entry → Prop
  | .message number content =>
    ∀ inner, type.child? number = some inner → Message.IsComplete inner content
  | _ => True

theorem Entry.isComplete_message {content : Message} (child : type.child? number = some inner) :
    Entry.IsComplete type (.message number content) ↔ content.IsComplete inner := by
  refine ⟨fun whole => whole inner child, fun whole other child' => ?_⟩
  cases child.symm.trans child'
  exact whole

theorem missingWithin_eq_nil_iff {before : Message} {entries : List Entry} :
    missingWithin type before entries = [] ↔
      ∀ entry ∈ entries, ∀ before, entry.missing type before = [] := by
  -- What stands before an entry is its index at most, which is no part of the question.
  have alike : ∀ entry : Entry, ∀ first second : Message,
      entry.missing type first = [] ↔ entry.missing type second = [] := by
    intro entry first second
    unfold Entry.missing
    split
    · split
      · rfl
      · split <;> simp
    · rfl
  induction entries generalizing before with
  | nil => simp [missingWithin]
  | cons entry rest ih =>
    rw [missingWithin, List.append_eq_nil_iff, List.forall_mem_cons]
    exact and_congr ⟨fun none other => (alike entry before other).mp none, fun none => none before⟩
      ih

theorem Entry.isComplete_iff {entry : Entry} :
    entry.IsComplete type ↔ ∀ before, entry.missing type before = [] := by
  cases entry with
  | message number content =>
    cases known : type.field? number with
    | none => simp [IsComplete, missing, MessageType.child?, known]
    | some spec =>
      cases kind : spec.kind <;>
        simp [IsComplete, missing, MessageType.child?, known, kind, Message.IsComplete,
          Message.missing]
  | _ => simp [IsComplete, missing]

theorem Message.isComplete_iff :
    message.IsComplete type ↔
      message.unset type = [] ∧ ∀ entry ∈ message, entry.IsComplete type := by
  simp only [IsComplete, Message.missing, List.append_eq_nil_iff, missingWithin_eq_nil_iff,
    Entry.isComplete_iff]

/-! ### Types without required fields -/

theorem MessageType.eq_namePart_of_required {spec : FieldSpec} (listed : spec ∈ type.fields)
    (required : spec.label = .required) : type = .namePart := by
  have table : ∀ spec ∈ type.fields, spec.label = .required → type = .namePart := by
    cases type <;> decide
  exact table spec listed required

/-- Elsewhere it is the nested messages that something is missing from. -/
theorem Message.isComplete_iff_nested (other : type ≠ .namePart) :
    message.IsComplete type ↔ ∀ entry ∈ message, entry.IsComplete type := by
  have set : message.unset type = [] := by
    rw [unset, List.map_eq_nil_iff, List.filter_eq_nil_iff]
    intro spec listed asked
    rw [Bool.and_eq_true, decide_eq_true_eq] at asked
    exact other (MessageType.eq_namePart_of_required listed asked.1)
  rw [isComplete_iff, set]
  exact and_iff_right rfl

theorem Message.isComplete_nil (other : type ≠ .namePart) : IsComplete type [] :=
  (isComplete_iff_nested other).mpr (by simp)

theorem EntityKind.descriptorType_ne (kind : EntityKind) : kind.descriptorType ≠ .namePart := by
  cases kind <;> decide

theorem EntityKind.optionsType_ne (kind : EntityKind) : kind.optionsType ≠ .namePart := by
  cases kind <;> decide

/-! ### Messages that nothing is missing from -/

theorem MessageType.exists_field_of_child? (child : type.child? number = some inner) :
    ∃ spec ∈ type.fields, spec.number = number := by
  obtain ⟨spec, known, _⟩ := Option.bind_eq_some_iff.mp child
  exact ⟨spec, MessageType.field?_eq_some.mp known⟩

/-- Whether nothing can be missing from the messages of a type. -/
def MessageType.requiresNothing (type : MessageType) : Bool :=
  type.isDetail && type != .uninterpretedOption && type != .namePart

theorem MessageType.requiresNothing_child? (child : type.child? number = some inner)
    (free : type.requiresNothing = true) : inner.requiresNothing = true := by
  obtain ⟨spec, listed, rfl⟩ := exists_field_of_child? child
  have table : ∀ spec ∈ type.fields,
      (type.child? spec.number).all MessageType.requiresNothing = true := by
    revert free
    clear child listed
    cases type <;> decide
  have held := table spec listed
  rwa [child] at held

theorem Message.isComplete_of_requiresNothing {type : MessageType}
    (free : type.requiresNothing = true) (message : Message) : message.IsComplete type := by
  have other : type ≠ .namePart := by
    rintro rfl
    cases free
  refine (isComplete_iff_nested other).mpr fun entry member => ?_
  match entry with
  | .message number content =>
    intro inner child
    exact isComplete_of_requiresNothing (MessageType.requiresNothing_child? child free) content
  | .scalar .. | .packed .. | .fixed64 .. | .text .. | .unknown .. => trivial
termination_by sizeOf message
decreasing_by
  have smaller := List.sizeOf_lt_of_mem member
  simp only [Entry.message.sizeOf_spec] at smaller
  omega

/-- Fields whose messages cannot miss anything need no look. -/
theorem Entry.isComplete_of_requiresNothing {entry : Entry}
    (free : ∀ number inner, entry.isField number = true → type.child? number = some inner →
      inner.requiresNothing = true) : entry.IsComplete type := by
  match entry with
  | .message number content =>
    intro inner child
    have own : (Entry.message number content).isField number = true := by
      simp [Entry.isField, Entry.number?]
    exact Message.isComplete_of_requiresNothing (free number inner own child) content
  | .scalar .. | .packed .. | .fixed64 .. | .text .. | .unknown .. => trivial

/-! ### Options -/

/-- The number of the uninterpreted options among all options. -/
def uninterpretedTag : Nat := 999

/-- Of the messages in options, only uninterpreted options can miss something. -/
theorem MessageType.requiresNothing_of_options (ofOptions : type.isOptions = true)
    (child : type.child? number = some inner) :
    number = uninterpretedTag ∨ inner.requiresNothing = true := by
  obtain ⟨spec, listed, rfl⟩ := exists_field_of_child? child
  have table : ∀ spec ∈ type.fields, spec.number = uninterpretedTag ∨
      (type.child? spec.number).all MessageType.requiresNothing = true := by
    revert ofOptions
    clear child listed
    cases type <;> decide
  have held := table spec listed
  rwa [child] at held

theorem Message.isComplete_options_iff (ofOptions : type.isOptions = true) :
    message.IsComplete type ↔
      ∀ entry ∈ message.entries uninterpretedTag, entry.IsComplete type := by
  have other : type ≠ .namePart := by
    rintro rfl
    cases ofOptions
  rw [isComplete_iff_nested other]
  refine ⟨fun all entry member => all entry (List.mem_filter.mp member).1, fun all entry member => ?_⟩
  by_cases field : entry.isField uninterpretedTag = true
  · exact all entry (List.mem_filter.mpr ⟨member, field⟩)
  · refine Entry.isComplete_of_requiresNothing fun number inner own child => ?_
    rcases MessageType.requiresNothing_of_options ofOptions child with rfl | free
    · exact absurd own field
    · exact free

/-- Options that have the same uninterpreted options are complete alike. -/
theorem Message.isComplete_options_congr {after : Message} (ofOptions : type.isOptions = true)
    (same : after.entries uninterpretedTag = message.entries uninterpretedTag) :
    after.IsComplete type ↔ message.IsComplete type := by
  rw [isComplete_options_iff ofOptions, isComplete_options_iff ofOptions, same]

/-! ### Down a message and up again -/

/-- A nested message of a complete one is complete, and may be replaced by another that is. -/
theorem Message.IsComplete.replace {front back : List Entry} {content : Message}
    (complete : IsComplete type (front ++ .message number content :: back))
    (child : type.child? number = some inner) :
    IsComplete inner content ∧ ∀ after, IsComplete inner after → type ≠ .namePart →
      IsComplete type (front ++ .message number after :: back) := by
  have all := (isComplete_iff.mp complete).2
  obtain ⟨ahead, here⟩ := List.forall_mem_append.mp all
  obtain ⟨own, behind⟩ := List.forall_mem_cons.mp here
  refine ⟨(Entry.isComplete_message child).mp own, fun after whole other => ?_⟩
  exact (isComplete_iff_nested other).mpr (List.forall_mem_append.mpr
    ⟨ahead, List.forall_mem_cons.mpr ⟨(Entry.isComplete_message child).mpr whole, behind⟩⟩)

theorem Message.IsComplete.child? (complete : message.IsComplete type)
    (child : type.child? number = some inner) {held : Message}
    (found : message.child? number = some held) : held.IsComplete inner := by
  obtain ⟨entry, member, shown⟩ := List.mem_filterMap.mp (List.mem_of_head? found)
  rw [eq_of_childOf? shown] at member
  exact (Entry.isComplete_message child).mp ((isComplete_iff.mp complete).2 _ member)

/-- The options of a complete entity are complete, also if it has none. -/
theorem Message.IsComplete.options {kind : EntityKind}
    (complete : message.IsComplete kind.descriptorType) :
    ((message.child? kind.optionsTag).getD []).IsComplete kind.optionsType := by
  cases found : message.child? kind.optionsTag with
  | none => exact isComplete_nil kind.optionsType_ne
  | some options => exact complete.child? kind.child?_optionsTag found

theorem Message.IsComplete.setChild (complete : message.IsComplete type) (other : type ≠ .namePart)
    (child : type.child? number = some inner) {content : Message}
    (whole : content.IsComplete inner) : (message.setChild number content).IsComplete type := by
  have placed := (Entry.isComplete_message child).mpr whole
  rw [isComplete_iff_nested other] at complete ⊢
  -- The new message takes the place of the one that was there, or is put among the entries.
  obtain ⟨front, back, _, ⟨held, rfl, _, set⟩ | ⟨rfl, _, set⟩⟩ := update_split number message
  all_goals
    obtain ⟨ahead, behind⟩ := List.forall_mem_append.mp complete
    rw [Message.setChild, set]
  · exact List.forall_mem_append.mpr
      ⟨ahead, List.forall_mem_cons.mpr ⟨placed, (List.forall_mem_cons.mp behind).2⟩⟩
  · exact List.forall_mem_append.mpr ⟨ahead, List.forall_mem_cons.mpr ⟨placed, behind⟩⟩

/-- Nothing is missing from source information. -/
theorem Message.isComplete_clear_sources :
    IsComplete .file (message.clear 9) ↔ message.IsComplete .file := by
  rw [isComplete_iff_nested (by decide), isComplete_iff_nested (by decide)]
  refine ⟨fun all entry member => ?_, fun all entry member => all entry (List.mem_filter.mp member).1⟩
  by_cases field : entry.isField 9 = true
  · refine Entry.isComplete_of_requiresNothing fun number inner own child => ?_
    obtain rfl : number = 9 := by
      rw [Entry.isField, beq_iff_eq] at field own
      exact Option.some.inj (own.symm.trans field)
    cases child
    rfl
  · exact all entry (List.mem_filter.mpr ⟨member, by simpa using field⟩)

/-- What is complete holds complete declarations only. -/
theorem Message.IsComplete.declarationFrom {outer kind : EntityKind} {descriptor entity : Message}
    {path : Path} (complete : descriptor.IsComplete outer.descriptorType)
    (resolves : declarationFrom outer descriptor path = some (kind, entity)) :
    entity.IsComplete kind.descriptorType := by
  induction path using List.twoStepInduction generalizing outer descriptor with
  | nil =>
    rw [declarationFrom_nil] at resolves
    cases resolves
  | singleton tag =>
    rw [declarationFrom_single] at resolves
    cases resolves
  | cons_cons tag index rest ih =>
    rw [declarationFrom_cons] at resolves
    obtain ⟨⟨child, inner⟩, step, inside⟩ := Option.bind_eq_some_iff.mp resolves
    obtain ⟨field, place, rfl, rfl, listed, found⟩ := nestedAt?_eq_some.mp step
    obtain ⟨front, back, rfl, _⟩ := Message.modifyNth_split found
    have whole := (complete.replace
      (EntityKind.child?_of_nested? (EntityKind.mem_nestedTags.mp listed))).1
    split at inside
    · cases inside
      exact whole
    · exact ih whole inside

theorem Message.IsComplete.resolveDeclaration {file entity : Message} {kind : EntityKind}
    {path : Path} (complete : file.IsComplete .file)
    (resolves : resolveDeclaration file path = some (kind, entity)) :
    entity.IsComplete kind.descriptorType := by
  have typed : file.IsComplete EntityKind.file.descriptorType := complete
  exact typed.declarationFrom resolves

end SchemaDoc.Descriptor
