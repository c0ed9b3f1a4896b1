import SchemaDoc.Proofs.Descriptor.Canonical
import SchemaDoc.Proofs.Wire.Locality

/-!
# Reading leaves the form

However the bytes of a message are put together, what is read from them has the form: storing one
record keeps it, whichever way the record is taken in.
-/
namespace SchemaDoc.Descriptor

open Text (Bytes)

/-! ### Values -/

theorem FieldKind.isScalar_of_admit? {kind : FieldKind} {word : Nat} {value : Int}
    (admitted : kind.admit? word = some value) : kind.isScalar = true := by
  cases kind <;> simp_all [admit?, isScalar]

theorem toWord_lt (value : Int) : toWord value < Wire.size64 := by
  simp only [toWord, Wire.size64]
  omega

/-- A value that a field admits is admitted again as it is written. -/
theorem FieldKind.admit?_toWord {kind : FieldKind} {word : Nat} {value : Int}
    (small : word < Wire.size64) (admitted : kind.admit? word = some value) :
    kind.admit? (toWord value) = some value := by
  have low : Int.bmod (toWord (Int.bmod word Wire.size32)) Wire.size32 =
      Int.bmod word Wire.size32 := by
    simp only [toWord, Wire.size32, Wire.size64, Int.bmod_def]
    omega
  cases kind with
  | bool =>
    simp only [admit?, Option.some.injEq] at admitted
    subst admitted
    split <;> simp [admit?, toWord, Wire.size64]
  | int32 =>
    simp only [admit?, Option.some.injEq] at admitted ⊢
    subst admitted
    exact low
  | int64 =>
    simp only [admit?, Option.some.injEq] at admitted ⊢
    subst admitted
    simp only [toWord, Wire.size64, Int.bmod_def]
    omega
  | uint64 =>
    simp only [admit?, Option.some.injEq] at admitted ⊢
    subst admitted
    simp only [toWord, Wire.size64] at small ⊢
    omega
  | enumeration type =>
    simp only [admit?] at admitted ⊢
    split at admitted
    next listed =>
      rw [Option.some.injEq] at admitted
      subst admitted
      rw [low, if_pos listed]
    · cases admitted
  | _ => cases admitted

/-! ### What storing one record does -/

namespace Message

variable {readChild : MessageType → Message → Bytes → Reading} {type : MessageType}
  {message : Message} {record : Wire.Record} {spec : FieldSpec}

theorem storeRecord_child {inner : MessageType} {content : Bytes}
    (known : type.field? record.number = some spec) (kind : spec.kind = .message inner)
    (payload : record.payload = .delimited content) :
    message.storeRecord readChild type record =
      message.storeChild spec fun held => readChild inner held content := by
  simp [storeRecord, known, kind, payload]

theorem storeRecord_text {content : Bytes} (known : type.field? record.number = some spec)
    (kind : spec.kind = .string ∨ spec.kind = .bytes)
    (payload : record.payload = .delimited content) :
    message.storeRecord readChild type record = { message := message.storeText spec content } := by
  rcases kind with kind | kind <;> simp [storeRecord, known, kind, payload]

theorem storeRecord_fixed64 {content : Bytes} (known : type.field? record.number = some spec)
    (kind : spec.kind = .double) (payload : record.payload = .fixed64 content) :
    message.storeRecord readChild type record =
      { message := message.update spec.number fun _ => .fixed64 spec.number content } := by
  simp [storeRecord, known, kind, payload]

theorem storeRecord_number {word : Nat} {value : Int}
    (known : type.field? record.number = some spec) (payload : record.payload = .varint word)
    (admitted : spec.kind.admit? word = some value) :
    message.storeRecord readChild type record =
      { message := message.storeNumber spec value } := by
  have scalar := FieldKind.isScalar_of_admit? admitted
  simp only [storeRecord, known, payload]
  split
  all_goals simp_all [storeWord, FieldKind.isScalar]

theorem storeRecord_numbers {content : Bytes} (known : type.field? record.number = some spec)
    (scalar : spec.kind.isScalar = true) (several : spec.occurrence ≠ .single)
    (payload : record.payload = .delimited content)
    (whole : (Wire.readVarints content).2 = []) :
    message.storeRecord readChild type record =
      { message := (Wire.readVarints content).1.foldl (storePacked spec) message } := by
  simp only [storeRecord, known, payload]
  split
  all_goals simp_all [FieldKind.isScalar]

end Message

/-- The ways in which a message of a type takes a record in. -/
inductive Storing (type : MessageType) (record : Wire.Record) : Prop
  /-- It is not declared, or not in this form, and stays as it came. -/
  | unknown (same : ∀ readChild message, Message.storeRecord readChild type message record =
      { message := message ++ [.unknown record] })
  | child (spec : FieldSpec) (inner : MessageType) (content : Bytes)
      (known : type.field? record.number = some spec) (kind : spec.kind = .message inner)
      (payload : record.payload = .delimited content)
  | text (spec : FieldSpec) (content : Bytes) (known : type.field? record.number = some spec)
      (kind : spec.kind = .string ∨ spec.kind = .bytes)
      (payload : record.payload = .delimited content)
  | fixed64 (spec : FieldSpec) (content : Bytes) (known : type.field? record.number = some spec)
      (kind : spec.kind = .double) (payload : record.payload = .fixed64 content)
  | number (spec : FieldSpec) (word : Nat) (value : Int)
      (known : type.field? record.number = some spec) (payload : record.payload = .varint word)
      (admitted : spec.kind.admit? word = some value)
  /-- It is several numbers together, or at least looks like that. -/
  | numbers (spec : FieldSpec) (content : Bytes) (known : type.field? record.number = some spec)
      (scalar : spec.kind.isScalar = true) (several : spec.occurrence ≠ .single)
      (payload : record.payload = .delimited content)
      (cut : ∀ readChild message, (Wire.readVarints content).2 ≠ [] →
        (Message.storeRecord readChild type message record).fault ≠ none)

theorem storing (type : MessageType) (record : Wire.Record) : Storing type record := by
  obtain ⟨number, payload, raw⟩ := record
  cases known : type.field? number with
  | none => exact .unknown fun _ _ => by simp [Message.storeRecord, known]
  | some spec =>
    obtain ⟨field, name, kind, label⟩ := spec
    cases payload with
    | varint word =>
      cases admitted : kind.admit? word with
      | some value => exact .number _ word value known rfl admitted
      | none =>
        refine .unknown fun _ _ => ?_
        cases kind <;> simp_all [Message.storeRecord, Message.storeWord, FieldKind.isScalar]
    | fixed64 content =>
      by_cases double : kind = .double
      · exact .fixed64 _ content known double rfl
      · refine .unknown fun _ _ => ?_
        cases kind <;> simp_all [Message.storeRecord]
    | delimited content =>
      cases kind with
      | message inner => exact .child _ inner content known rfl rfl
      | string => exact .text _ content known (.inl rfl) rfl
      | bytes => exact .text _ content known (.inr rfl) rfl
      | double => exact .unknown fun _ _ => by simp [Message.storeRecord, known, FieldKind.isScalar]
      | bool | int32 | int64 | uint64 | enumeration =>
        by_cases single : label.occurrence = .single
        · exact .unknown fun _ _ => by
            simp [Message.storeRecord, known, FieldSpec.occurrence, single]
        · refine .numbers _ content known rfl single rfl fun _ _ cut => ?_
          simp [Message.storeRecord, known, FieldSpec.occurrence, single, cut, FieldKind.isScalar]
    | group => exact .unknown fun _ _ => by cases kind <;> simp [Message.storeRecord, known]
    | fixed32 content =>
      exact .unknown fun _ _ => by cases kind <;> simp [Message.storeRecord, known]

section Storing

variable {levels : Nat} {type : MessageType} {message : Message} {number : Nat} {spec : FieldSpec}

/-- A number that its field does not list is kept in its shortest form. -/
theorem kept_varintRecord (depth : Nat) (known : type.field? number = some spec) {word : Nat}
    (small : word < Wire.size64) (refused : spec.kind.admit? word = none) :
    Kept depth type (Wire.varintRecord number word) where
  reads := by
    obtain ⟨positive, bounded⟩ := MessageType.number_bounds known
    exact Wire.readRecord_varintRecord depth positive bounded small
  stays := by
    cases storing type (Wire.varintRecord number word) with
    | unknown same => exact same
    | number other word' value known' payload admitted =>
      cases payload
      cases known.symm.trans known'
      rw [refused] at admitted
      cases admitted
    | child _ _ _ _ _ payload => cases payload
    | text _ _ _ _ payload => cases payload
    | fixed64 _ _ _ _ payload => cases payload
    | numbers _ _ _ _ _ payload => cases payload

theorem Canonical.storeNumber (canonical : Canonical (levels + 1) type message)
    (known : type.field? spec.number = some spec) {value : Int}
    (admitted : spec.kind.admit? (toWord value) = some value) :
    Canonical (levels + 1) type (message.storeNumber spec value) := by
  rw [Message.storeNumber]
  cases occurs : spec.occurrence with
  | single =>
    exact canonical.update (fun _ => rfl) fun _ _ => ⟨spec, known, by simp [occurs], admitted⟩
  | repeated =>
    have repeats := (MessageType.repeats_of_field? known).mpr occurs
    exact canonical.add rfl repeats ⟨spec, known, by simp [occurs], admitted⟩
  | packed =>
    refine canonical.update (fun held => ?_) fun held shown => ?_
    · split <;> rfl
    · split
      next other values =>
        -- The numbers that are there already are of this field, too.
        obtain ⟨member, field⟩ := shown _ rfl
        obtain ⟨spec', known', _, _, all⟩ := canonical.2 _ member
        simp only [Entry.number?, Option.some.injEq] at field
        rw [field, known] at known'
        cases known'
        refine ⟨spec, known, occurs, by simp, fun entry inside => ?_⟩
        rcases List.mem_append.mp inside with old | new
        · exact all entry old
        · rw [List.mem_singleton.mp new]
          exact admitted
      · refine ⟨spec, known, occurs, by simp, fun entry inside => ?_⟩
        rw [List.mem_singleton.mp inside]
        exact admitted

theorem Canonical.storePacked (canonical : Canonical (levels + 1) type message)
    (known : type.field? spec.number = some spec) (word : Nat) :
    Canonical (levels + 1) type (message.storePacked spec word) := by
  have small : word % Wire.size64 < Wire.size64 := Nat.mod_lt _ (by decide)
  rw [Message.storePacked, Message.storeWord]
  cases admitted : spec.kind.admit? (word % Wire.size64) with
  | none => exact canonical.append_unknown (kept_varintRecord levels known small admitted)
  | some value => exact canonical.storeNumber known (FieldKind.admit?_toWord small admitted)

theorem Canonical.storeText (canonical : Canonical (levels + 1) type message)
    (known : type.field? spec.number = some spec) (kind : spec.kind = .string ∨ spec.kind = .bytes)
    (content : Bytes) : Canonical (levels + 1) type (message.storeText spec content) := by
  have fits : (Entry.text spec.number content).Fits (Canonical levels) levels type :=
    ⟨spec, known, kind⟩
  rw [Message.storeText]
  cases occurs : spec.occurrence with
  | single => exact canonical.update (fun _ => rfl) fun _ _ => fits
  | repeated => exact canonical.add rfl ((MessageType.repeats_of_field? known).mpr occurs) fits
  | packed =>
    have int := MessageType.kind_of_packed known occurs
    rw [int] at kind
    rcases kind with kind | kind <;> cases kind

theorem Canonical.storeChild (canonical : Canonical (levels + 1) type message)
    (known : type.field? spec.number = some spec) {inner : MessageType}
    (kind : spec.kind = .message inner) {read : Message → Reading}
    (reads : ∀ held, Canonical levels inner held → (read held).fault = none →
      Canonical levels inner (read held).message)
    (empty : ∀ held, (read held).fault = none → Canonical levels inner [])
    (whole : (message.storeChild spec read).fault = none) :
    Canonical (levels + 1) type (message.storeChild spec read).message := by
  rw [Message.storeChild] at whole ⊢
  cases occurs : spec.occurrence with
  | single =>
    simp only [occurs] at whole ⊢
    refine canonical.update (fun _ => rfl) fun _ _ => ⟨spec, inner, known, kind, ?_⟩
    apply reads _ _ whole
    cases found : message.child? spec.number with
    | none => exact empty _ whole
    | some held => exact canonical.child? known kind found
  | repeated =>
    simp only [occurs] at whole ⊢
    have repeats := (MessageType.repeats_of_field? known).mpr occurs
    exact canonical.add rfl repeats ⟨spec, inner, known, kind, reads _ (empty _ whole) whole⟩
  | packed =>
    have int := MessageType.kind_of_packed known occurs
    rw [int] at kind
    cases kind

end Storing

/-! ### Reading leaves the form -/

/-- Reading stops where no record can be read. -/
theorem mergeWithin_stop {levels : Nat} {bytes : Bytes}
    (stop : Wire.readRecord levels bytes = none) (type : MessageType) (message : Message) :
    mergeWithin (levels + 1) type message bytes =
      if bytes.isEmpty then { message }
      else { message := message.storeCutOff type bytes, fault := some .corrupt } := by
  rw [mergeWithin, Wire.readRecords_of_none stop]
  rfl

/-- A record is stored, and then the rest is read into what has become of the message. -/
theorem mergeWithin_next {levels : Nat} {bytes rest : Bytes} {record : Wire.Record}
    (next : Wire.readRecord levels bytes = some (record, rest)) (type : MessageType)
    (message : Message) :
    mergeWithin (levels + 1) type message bytes =
      let reading := message.storeRecord (mergeWithin levels) type record
      match reading.fault with
      | some _ => reading
      | none => mergeWithin (levels + 1) type reading.message rest := by
  rw [mergeWithin, Wire.readRecords_of_some next]
  rfl

/-- Reading that goes through has stored its first record without a fault. -/
theorem fault_of_merges {levels : Nat} {type : MessageType} {message : Message}
    {bytes rest : Bytes} {record : Wire.Record}
    (next : Wire.readRecord levels bytes = some (record, rest))
    (whole : (mergeWithin (levels + 1) type message bytes).fault = none) :
    (message.storeRecord (mergeWithin levels) type record).fault = none := by
  rw [mergeWithin_next next] at whole
  cases faulty : (message.storeRecord (mergeWithin levels) type record).fault with
  | none => rfl
  | some fault => simp [faulty] at whole

theorem canonical_nil_of_merges {levels : Nat} {type : MessageType} {message : Message}
    {bytes : Bytes} (whole : (mergeWithin levels type message bytes).fault = none) :
    Canonical levels type [] := by
  cases levels with
  | zero => cases whole
  | succ levels => exact Canonical.nil

/-- Storing one record keeps the form, if reading nested messages does. -/
theorem Canonical.storeRecord {levels : Nat} {type : MessageType} {message : Message}
    (reads : ∀ {inner : MessageType} {held : Message} {content : Bytes},
      Canonical levels inner held → (mergeWithin levels inner held content).fault = none →
        Canonical levels inner (mergeWithin levels inner held content).message)
    (canonical : Canonical (levels + 1) type message) {bytes rest : Bytes} {record : Wire.Record}
    (found : Wire.readRecord levels bytes = some (record, rest))
    (whole : (message.storeRecord (mergeWithin levels) type record).fault = none) :
    Canonical (levels + 1) type (message.storeRecord (mergeWithin levels) type record).message := by
  have sound := Wire.readRecord_sound found
  have declared : ∀ {spec : FieldSpec}, type.field? record.number = some spec →
      type.field? spec.number = some spec := by
    intro spec known
    rw [MessageType.number_of_field? known]
    exact known
  cases storing type record with
  | unknown same =>
    rw [same]
    exact canonical.append_unknown ⟨(Wire.readRecord_raw found).2, same⟩
  | child spec inner content known kind payload =>
    rw [Message.storeRecord_child known kind payload] at whole ⊢
    exact canonical.storeChild (declared known) kind (fun _ => reads)
      (fun _ => canonical_nil_of_merges) whole
  | text spec content known kind payload =>
    rw [Message.storeRecord_text known kind payload]
    exact canonical.storeText (declared known) kind content
  | fixed64 spec content known kind payload =>
    rw [Message.storeRecord_fixed64 known kind payload]
    rw [payload] at sound
    exact canonical.update (fun _ => rfl) fun _ _ => ⟨spec, declared known, kind, sound⟩
  | number spec word value known payload admitted =>
    rw [Message.storeRecord_number known payload admitted]
    rw [payload] at sound
    exact canonical.storeNumber (declared known) (FieldKind.admit?_toWord sound admitted)
  | numbers spec content known scalar several payload cut =>
    have ended : (Wire.readVarints content).2 = [] := by
      by_contra more
      exact cut _ _ more whole
    rw [Message.storeRecord_numbers known scalar several payload ended]
    clear whole
    generalize (Wire.readVarints content).1 = words
    induction words generalizing message with
    | nil => exact canonical
    | cons word rest ih => exact ih (canonical.storePacked (declared known) word)

/-- Reading into a message that has the form leaves one that has it, unless there was a fault. -/
theorem mergeWithin_canonical {levels : Nat} {type : MessageType} {message : Message}
    {bytes : Bytes} (canonical : Canonical levels type message)
    (whole : (mergeWithin levels type message bytes).fault = none) :
    Canonical levels type (mergeWithin levels type message bytes).message := by
  -- Along the levels, and on each along the records.
  induction levels generalizing type message bytes with
  | zero => cases whole
  | succ levels ih =>
    induction bytes using Wire.readRecords.induct levels generalizing message with
    | case1 bytes stop =>
      rw [mergeWithin_stop stop] at whole ⊢
      split at whole
      next empty => rw [if_pos empty]; exact canonical
      · cases whole
    | case2 bytes record rest next more =>
      have stored := fault_of_merges next whole
      rw [mergeWithin_next next] at whole ⊢
      simp only [stored] at whole ⊢
      exact more (Canonical.storeRecord ih canonical next stored) whole

theorem canonical_of_decode {type : MessageType} {bytes : Bytes} {message : Message}
    (read : decode type bytes = .ok message) : Canonical levelLimit type message := by
  simp only [decode, Message.merge] at read
  split at read
  · cases read
  next whole =>
    cases read
    exact mergeWithin_canonical Canonical.nil whole

end SchemaDoc.Descriptor
