import SchemaDoc.Proofs.Descriptor.Decoding
import SchemaDoc.Proofs.Wire.Record

/-!
# What stays when one more record is read

A delimited record under a number changes at most the field with that number, and that only if the
field holds what is written in this way. Even then the field stays set, and a repeated one keeps
its elements.
-/
namespace SchemaDoc.Descriptor

open Text (Bytes)

/-- Whether a delimited record is a value of a field, or several of them. -/
def FieldSpec.takesDelimited (spec : FieldSpec) : Bool :=
  match spec.kind with
  | .string | .bytes | .message _ => true
  | .double => false
  | .bool | .int32 | .int64 | .uint64 | .enumeration _ => spec.occurrence != .single

/-- Whether a delimited record under a number is a value of a declared field. -/
def MessageType.takesDelimited (type : MessageType) (number : Nat) : Bool :=
  (type.field? number).any (·.takesDelimited)

theorem MessageType.takesDelimited_of_field? {type : MessageType} {number : Nat} {spec : FieldSpec}
    (known : type.field? number = some spec) :
    type.takesDelimited number = spec.takesDelimited := by
  simp [MessageType.takesDelimited, known]

/-- A message of a type still has the fields that it had, all of them as they were but for those
that were free to change. -/
structure Retains (type : MessageType) (free : Nat → Prop) (before after : Message) : Prop where
  set : ∀ number, before.has number → after.has number
  same : ∀ number, ¬free number → after.entries number = before.entries number
  elements : ∀ number, type.repeats number →
    (before.entries number).Sublist (after.entries number)

section Retains

variable {type : MessageType} {free : Nat → Prop} {message : Message} {number : Nat}

theorem Retains.refl (message : Message) : Retains type free message message :=
  ⟨fun _ held => held, fun _ _ => rfl, fun _ _ => .refl _⟩

theorem Retains.trans {before middle after : Message} (first : Retains type free before middle)
    (second : Retains type free middle after) : Retains type free before after where
  set number held := second.set number (first.set number held)
  same number fixed := (second.same number fixed).trans (first.same number fixed)
  elements number repeats :=
    (first.elements number repeats).trans (second.elements number repeats)

theorem Retains.mono {before after : Message} (retains : Retains type free before after)
    {more : Nat → Prop} (wider : ∀ number, free number → more number) :
    Retains type more before after where
  set := retains.set
  same number fixed := retains.same number fun freed => fixed (wider number freed)
  elements := retains.elements

/-! ### One entry more or another one -/

theorem Retains.insert {front back : List Entry} {placed : Entry}
    (freed : ∀ number, placed.number? = some number → free number) :
    Retains type free (front ++ back) (front ++ placed :: back) where
  set number held := by
    simp only [Message.has, List.any_append, List.any_cons, Bool.or_eq_true] at held ⊢
    exact held.imp_right .inr
  same number fixed := by
    have apart : placed.isField number = false := by
      simpa [Entry.isField] using fun field => fixed (freed number field)
    simp [Message.entries, apart]
  elements number _ := ((List.sublist_cons_self placed back).append_left front).filter _

/-- A field that is not repeated may have another entry in the place of its own. -/
theorem Retains.swap {front back : List Entry} {held placed : Entry}
    (same : placed.number? = held.number?)
    (freed : ∀ number, held.number? = some number → free number ∧ ¬type.repeats number) :
    Retains type free (front ++ held :: back) (front ++ placed :: back) := by
  have field : ∀ number, placed.isField number = held.isField number := fun number => by
    rw [Entry.isField, same, Entry.isField]
  have others : ∀ number, held.isField number = false →
      Message.entries number (front ++ placed :: back) =
        Message.entries number (front ++ held :: back) := by
    intro number apart
    simp [Message.entries, field, apart]
  refine ⟨fun number => ?_, fun number fixed => others number ?_, fun number repeats => ?_⟩
  · simp [Message.has, field]
  · simpa [Entry.isField] using fun found => fixed (freed number found).1
  · have apart : held.isField number = false := by
      simpa [Entry.isField] using fun found => (freed number found).2 repeats
    exact (others number apart).symm ▸ .refl _

theorem Retains.update {change : Option Entry → Entry}
    (field : ∀ held, (change held).number? = some number) (freed : free number)
    (once : ¬type.repeats number) : Retains type free message (message.update number change) := by
  obtain ⟨front, back, _, ⟨held, rfl, same, placed⟩ | ⟨rfl, _, placed⟩⟩ :=
    Message.update_split number message
  · rw [placed]
    refine .swap (by rw [field, same]) fun other found => ?_
    rw [same] at found
    cases found
    exact ⟨freed, once⟩
  · rw [placed]
    refine .insert fun other found => ?_
    rw [field] at found
    cases found
    exact freed

theorem Retains.add {added : Entry} (field : added.number? = some number) (freed : free number) :
    Retains type free message (message.add number added) := by
  obtain ⟨front, back, rfl, _, _, placed⟩ := Message.add_split number added message
  rw [placed]
  refine .insert fun other found => ?_
  rw [field] at found
  cases found
  exact freed

/-- Records that are not declared come behind all fields. -/
theorem Retains.append_unknown (record : Wire.Record) :
    Retains type free message (message ++ [.unknown record]) := by
  have placed : Retains type free (message ++ []) (message ++ [.unknown record]) :=
    .insert fun _ field => by cases field
  rwa [List.append_nil] at placed

end Retains

/-! ### Storing a record -/

section Storing

variable {type : MessageType} {free : Nat → Prop} {message : Message} {spec : FieldSpec}

theorem MessageType.not_repeats {number : Nat} (known : type.field? number = some spec)
    (once : spec.occurrence ≠ .repeated) : ¬type.repeats number :=
  fun repeats => once ((MessageType.repeats_of_field? known).mp repeats)

theorem Retains.storeNumber (known : type.field? spec.number = some spec)
    (freed : free spec.number) (value : Int) :
    Retains type free message (message.storeNumber spec value) := by
  rw [Message.storeNumber]
  split
  next single =>
    exact .update (fun _ => rfl) freed (MessageType.not_repeats known (by simp [single]))
  next => exact .add rfl freed
  next packed =>
    refine .update (fun held => ?_) freed (MessageType.not_repeats known (by simp [packed]))
    split <;> rfl

theorem Retains.storePacked (known : type.field? spec.number = some spec)
    (freed : free spec.number) (word : Nat) :
    Retains type free message (message.storePacked spec word) := by
  rw [Message.storePacked, Message.storeWord]
  split
  · exact .append_unknown _
  · exact .storeNumber known freed _

theorem Retains.foldl_storePacked (known : type.field? spec.number = some spec)
    (freed : free spec.number) (words : List Nat) :
    Retains type free message (words.foldl (Message.storePacked spec) message) := by
  induction words generalizing message with
  | nil => exact .refl message
  | cons word rest ih => exact (Retains.storePacked known freed word).trans ih

theorem Retains.storeText (known : type.field? spec.number = some spec)
    (freed : free spec.number) (content : Bytes) :
    Retains type free message (message.storeText spec content) := by
  rw [Message.storeText]
  split
  next single =>
    exact .update (fun _ => rfl) freed (MessageType.not_repeats known (by simp [single]))
  all_goals exact .add rfl freed

theorem Retains.storeChild (known : type.field? spec.number = some spec)
    (freed : free spec.number) (read : Message → Reading) :
    Retains type free message (message.storeChild spec read).message := by
  rw [Message.storeChild]
  split
  next single =>
    exact .update (fun _ => rfl) freed (MessageType.not_repeats known (by simp [single]))
  all_goals exact .add rfl freed

/-- A delimited record that is stored without a fault changes no other field than its own. -/
theorem Retains.storeRecord {readChild : MessageType → Message → Bytes → Reading}
    {record : Wire.Record} {content : Bytes} (payload : record.payload = .delimited content)
    (freed : type.takesDelimited record.number → free record.number)
    (whole : (message.storeRecord readChild type record).fault = none) :
    Retains type free message (message.storeRecord readChild type record).message := by
  -- Fields that are found by the number of a record have that number.
  have found : ∀ {spec}, type.field? record.number = some spec → spec.takesDelimited = true →
      type.field? spec.number = some spec ∧ free spec.number := by
    intro spec known takes
    rw [MessageType.number_of_field? known]
    exact ⟨known, freed ((MessageType.takesDelimited_of_field? known).trans takes)⟩
  cases storing type record with
  | unknown same =>
    rw [same]
    exact .append_unknown record
  | child spec inner content known kind payload =>
    obtain ⟨known', freed⟩ := found known (by simp [FieldSpec.takesDelimited, kind])
    rw [Message.storeRecord_child known kind payload]
    exact .storeChild known' freed _
  | text spec content known kind payload =>
    have takes : spec.takesDelimited = true := by
      rcases kind with kind | kind <;> simp [FieldSpec.takesDelimited, kind]
    obtain ⟨known', freed⟩ := found known takes
    rw [Message.storeRecord_text known kind payload]
    exact .storeText known' freed content
  | fixed64 _ _ _ _ payload' =>
    rw [payload] at payload'
    cases payload'
  | number _ _ _ _ payload' =>
    rw [payload] at payload'
    cases payload'
  | numbers spec content known scalar several payload cut =>
    have takes : spec.takesDelimited = true := by
      rw [FieldSpec.takesDelimited]
      split <;> simp_all [FieldKind.isScalar]
    obtain ⟨known', freed⟩ := found known takes
    have ended : (Wire.readVarints content).2 = [] := by
      by_contra more
      exact cut _ _ more whole
    rw [Message.storeRecord_numbers known scalar several payload ended]
    exact .foldl_storePacked known' freed _

/-- Merging the bytes of one delimited record frees its field alone, and that only if it takes
records of this form. -/
theorem Retains.merge {number : Nat} (positive : 1 ≤ number) (bounded : number < 0x20000000)
    {content : Bytes}
    (whole : (message.merge type (Wire.encodeDelimited number content)).fault = none) :
    Retains type (fun other => other = number ∧ type.takesDelimited number) message
      (message.merge type (Wire.encodeDelimited number content)).message := by
  rw [Message.merge, levelLimit, mergeWithin,
    Wire.readRecords_encodeDelimited _ positive bounded] at whole ⊢
  by_cases short : content.length < Wire.sizeLimit
  · simp only [if_pos short, Message.storeRecords] at whole ⊢
    split at whole
    next fault =>
      rw [whole] at fault
      cases fault
    next stored =>
      simp only [List.isEmpty_nil, if_true]
      exact .storeRecord rfl (fun takes => ⟨rfl, takes⟩) stored
  · have left := Wire.encodeDelimited_ne_nil number content
    simp [if_neg short, Message.storeRecords, left] at whole

end Storing

end SchemaDoc.Descriptor
