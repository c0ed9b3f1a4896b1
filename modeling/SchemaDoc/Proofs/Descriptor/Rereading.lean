import SchemaDoc.Descriptor.FileSet
import SchemaDoc.Proofs.Descriptor.Decoding

/-!
# Reading what was written

A message that has the form is read back from the bytes that write it, unless these are refused
because something in them has grown too long or lies too deep. So bytes that were written from
what was read are read as that, and as nothing else.
-/
namespace SchemaDoc.Descriptor

open Text (Bytes)

variable {levels : Nat} {type : MessageType} {before rest : List Entry} {entry : Entry}
  {number : Nat} {spec : FieldSpec}

/-! ### Storing an entry again -/

theorem Canonical.update_last (canonical : Canonical (levels + 1) type (before ++ entry :: rest))
    (field : entry.number? = some number) (known : type.field? number = some spec)
    (once : spec.occurrence ≠ .repeated) (change : Option Entry → Entry) :
    Message.update number change before = before ++ [change none] :=
  Message.update_append (canonical.early_single field known once) change

theorem Canonical.add_last (canonical : Canonical (levels + 1) type (before ++ entry :: rest))
    (field : entry.number? = some number) (added : Entry) :
    Message.add number added before = before ++ [added] :=
  Message.add_append (canonical.early_repeated field) added

theorem storeNumber_last {value : Int}
    (canonical : Canonical (levels + 1) type (before ++ .scalar number value :: rest))
    (known : type.field? number = some spec) (apart : spec.occurrence ≠ .packed) :
    Message.storeNumber spec before value = before ++ [.scalar number value] := by
  rw [Message.storeNumber, MessageType.number_of_field? known]
  cases occurs : spec.occurrence with
  | single => exact canonical.update_last rfl known (by simp [occurs]) _
  | repeated => exact canonical.add_last rfl _
  | packed => exact absurd occurs apart

theorem storeText_last {content : Bytes}
    (canonical : Canonical (levels + 1) type (before ++ .text number content :: rest))
    (known : type.field? number = some spec) :
    Message.storeText spec before content = before ++ [.text number content] := by
  rw [Message.storeText, MessageType.number_of_field? known]
  cases occurs : spec.occurrence with
  | single => exact canonical.update_last rfl known (by simp [occurs]) _
  | repeated | packed => exact canonical.add_last rfl _

/-- There is no nested message yet that this one would be merged into. -/
theorem storeChild_last {content : Message}
    (canonical : Canonical (levels + 1) type (before ++ .message number content :: rest))
    (known : type.field? number = some spec) (read : Message → Reading) :
    Message.storeChild spec read before =
      { message := before ++ [.message number (read []).message], fault := (read []).fault } := by
  rw [Message.storeChild, MessageType.number_of_field? known]
  cases occurs : spec.occurrence with
  | single =>
    have early := canonical.early_single rfl known (by simp [occurs])
    have fresh := Message.child?_eq_none (Message.number?_ne_of_early early)
    simp only [fresh, Option.getD_none, Message.setChild, Message.update_append early]
  | repeated | packed =>
    have last := canonical.add_last rfl (.message number (read []).message)
    simp only [last]

theorem Message.storeNumber_packed {message : Message} {value : Int}
    (occurs : spec.occurrence = .packed) :
    message.storeNumber spec value = message.update spec.number fun
      | some (.packed _ held) => .packed spec.number (held ++ [value])
      | _ => .packed spec.number [value] := by
  obtain ⟨number, name, kind, label⟩ := spec
  cases label with
  | packed => rfl
  | _ => cases occurs

/-- Numbers that stood together come together again. -/
theorem foldl_storePacked (known : type.field? number = some spec)
    (occurs : spec.occurrence = .packed)
    (early : ∀ first ∈ before, ∃ other < number, first.number? = some other) {values : List Int}
    (filled : values ≠ [])
    (admitted : ∀ value ∈ values, spec.kind.admit? (toWord value) = some value) :
    (values.map toWord).foldl (Message.storePacked spec) before =
      before ++ [.packed number values] := by
  have same := MessageType.number_of_field? known
  have step : ∀ message value, spec.kind.admit? (toWord value) = some value →
      Message.storePacked spec message (toWord value) = message.update number fun
        | some (.packed _ held) => .packed number (held ++ [value])
        | _ => .packed number [value] := by
    intro message value admits
    rw [Message.storePacked, Nat.mod_eq_of_lt (toWord_lt value), Message.storeWord, admits,
      ← same]
    exact Message.storeNumber_packed occurs
  -- The first number opens the entry; each later one finds it last and goes to its end.
  have more : ∀ (later held : List Int),
      (∀ value ∈ later, spec.kind.admit? (toWord value) = some value) →
        (later.map toWord).foldl (Message.storePacked spec) (before ++ [.packed number held]) =
          before ++ [.packed number (held ++ later)] := by
    intro later
    induction later with
    | nil => intro held _; simp
    | cons value rest ih =>
      intro held admits
      rw [List.map_cons, List.foldl_cons, step _ _ (admits value (by simp)),
        Message.update_at early rfl, ih _ fun other member => admits other (by simp [member])]
      simp
  cases values with
  | nil => exact absurd rfl filled
  | cons value later =>
    rw [List.map_cons, List.foldl_cons, step _ _ (admitted value (by simp)),
      Message.update_append early,
      more later _ fun other member => admitted other (by simp [member])]
    rfl

/-! ### Reading an entry again -/

/-- The record that an entry is written as. -/
def Entry.record : Entry → Wire.Record
  | .scalar number value => Wire.varintRecord number (toWord value)
  | .packed number values =>
    Wire.delimitedRecord number (values.flatMap fun value => Wire.encodeVarint (toWord value))
  | .fixed64 number content => Wire.fixed64Record number content
  | .text number content => Wire.delimitedRecord number content
  | .message number content => Wire.delimitedRecord number (encodeAll content)
  | .unknown record => record

/-- How many bytes a declared entry writes behind a size. -/
def Entry.size : Entry → Nat
  | .packed _ values => (values.flatMap fun value => Wire.encodeVarint (toWord value)).length
  | .text _ content => content.length
  | .message _ content => (encodeAll content).length
  | .scalar _ _ | .fixed64 _ _ | .unknown _ => 0

theorem mergeWithin_stores {bytes tail : Bytes} {record : Wire.Record}
    (next : Wire.readRecord levels bytes = some (record, tail)) {message after : Message}
    (stores : message.storeRecord (mergeWithin levels) type record = { message := after }) :
    mergeWithin (levels + 1) type message bytes = mergeWithin (levels + 1) type after tail := by
  rw [mergeWithin_next next, stores]

/-- A delimited record that is read without a fault is not too long. -/
theorem length_lt_of_merges {content tail : Bytes} {message : Message}
    (known : type.field? number = some spec)
    (whole : (mergeWithin (levels + 1) type message
      (Wire.encodeDelimited number content ++ tail)).fault = none) :
    content.length < Wire.sizeLimit := by
  obtain ⟨positive, bounded⟩ := MessageType.number_bounds known
  have read := Wire.readRecord_encodeDelimited levels positive bounded content tail
  by_contra long
  rw [if_neg long] at read
  have filled : (Wire.encodeDelimited number content ++ tail).isEmpty = false := by
    simp [Wire.encodeDelimited_ne_nil]
  rw [mergeWithin_stop read] at whole
  simp [filled] at whole

theorem readRecord_delimited (known : type.field? number = some spec) {content : Bytes}
    (short : content.length < Wire.sizeLimit) (depth : Nat) (tail : Bytes) :
    Wire.readRecord depth (Wire.encodeDelimited number content ++ tail) =
      some (Wire.delimitedRecord number content, tail) := by
  obtain ⟨positive, bounded⟩ := MessageType.number_bounds known
  rw [Wire.readRecord_encodeDelimited depth positive bounded, if_pos short]

/-- An entry that is not too long is read as the record that it was written as. -/
theorem readRecord_entry {Inner : MessageType → Message → Prop} {depth : Nat}
    (fits : entry.Fits Inner depth type) (short : entry.size < Wire.sizeLimit) (tail : Bytes) :
    Wire.readRecord depth (entry.encode ++ tail) = some (entry.record, tail) := by
  cases entry with
  | unknown record => exact fits.reads tail
  | scalar number value =>
    obtain ⟨spec, known, _⟩ := fits
    obtain ⟨positive, bounded⟩ := MessageType.number_bounds known
    exact Wire.readRecord_varintRecord depth positive bounded (toWord_lt value) tail
  | packed number values =>
    obtain ⟨spec, known, _, filled, _⟩ := fits
    rw [Entry.encode, if_neg (by simpa using filled)]
    exact readRecord_delimited known short depth tail
  | fixed64 number content =>
    obtain ⟨spec, known, _, size⟩ := fits
    obtain ⟨positive, bounded⟩ := MessageType.number_bounds known
    exact Wire.readRecord_fixed64Record depth positive bounded size tail
  | text number content =>
    obtain ⟨spec, known, _⟩ := fits
    rw [Entry.encode]
    exact readRecord_delimited known short depth tail
  | message number content =>
    obtain ⟨spec, _, known, _⟩ := fits
    rw [Entry.encode]
    exact readRecord_delimited known short depth tail

/-- The record of an entry is stored as that entry, behind those that come before it, if its nested
message is read back. -/
theorem storeRecord_entry (canonical : Canonical (levels + 1) type (before ++ entry :: rest))
    (nested : ∀ number content spec inner, entry = .message number content →
      type.field? number = some spec → spec.kind = .message inner → Canonical levels inner content →
        (mergeWithin levels inner [] (encodeAll content)).fault = none ∧
        (mergeWithin levels inner [] (encodeAll content)).message = content) :
    Message.storeRecord (mergeWithin levels) type before entry.record =
      { message := before ++ [entry] } := by
  have fits := canonical.2 entry (by simp)
  cases entry with
  | unknown record => exact fits.stays _ _
  | scalar number value =>
    obtain ⟨spec, known, apart, admitted⟩ := fits
    rw [Entry.record, Message.storeRecord_number known rfl admitted,
      storeNumber_last canonical known apart]
  | packed number values =>
    obtain ⟨spec, known, occurs, filled, admitted⟩ := fits
    have int := MessageType.kind_of_packed known occurs
    have small : ∀ word ∈ values.map toWord, word < Wire.size64 := by
      intro word member
      obtain ⟨value, _, rfl⟩ := List.mem_map.mp member
      exact toWord_lt value
    -- All numbers stand in one record, and are stored one by one.
    have read := Wire.readVarints_flatMap small
    rw [List.flatMap_map] at read
    rw [Entry.record, Message.storeRecord_numbers known (by rw [int]; rfl) (by simp [occurs]) rfl
      (by rw [read]), read, foldl_storePacked known occurs
        (canonical.early_single rfl known (by simp [occurs])) filled admitted]
  | fixed64 number content =>
    obtain ⟨spec, known, double, size⟩ := fits
    have single := MessageType.single_of_double known double
    rw [Entry.record, Message.storeRecord_fixed64 known double rfl,
      MessageType.number_of_field? known, canonical.update_last rfl known (by simp [single])]
  | text number content =>
    obtain ⟨spec, known, kind⟩ := fits
    rw [Entry.record, Message.storeRecord_text known kind rfl, storeText_last canonical known]
  | message number content =>
    obtain ⟨spec, inner, known, kind, form⟩ := fits
    obtain ⟨whole, same⟩ := nested number content spec inner rfl known kind form
    rw [Entry.record, Message.storeRecord_child known kind rfl, storeChild_last canonical known,
      whole, same]

/-- The bytes of an entry are read as that entry, behind those that come before it. -/
theorem mergeWithin_entry
    (reads : ∀ {inner : MessageType} {content : Message}, Canonical levels inner content →
      (mergeWithin levels inner [] (encodeAll content)).fault = none →
        (mergeWithin levels inner [] (encodeAll content)).message = content)
    (canonical : Canonical (levels + 1) type (before ++ entry :: rest)) {tail : Bytes}
    (whole : (mergeWithin (levels + 1) type before (entry.encode ++ tail)).fault = none) :
    mergeWithin (levels + 1) type before (entry.encode ++ tail) =
      mergeWithin (levels + 1) type (before ++ [entry]) tail := by
  have fits := canonical.2 entry (by simp)
  have short : entry.size < Wire.sizeLimit := by
    cases entry with
    | packed number values =>
      obtain ⟨spec, known, _, filled, _⟩ := fits
      rw [Entry.encode, if_neg (by simpa using filled)] at whole
      exact length_lt_of_merges known whole
    | text number content =>
      obtain ⟨spec, known, _⟩ := fits
      rw [Entry.encode] at whole
      exact length_lt_of_merges known whole
    | message number content =>
      obtain ⟨spec, _, known, _⟩ := fits
      rw [Entry.encode] at whole
      exact length_lt_of_merges known whole
    | scalar | fixed64 | unknown => exact (by decide : 0 < Wire.sizeLimit)
  have next := readRecord_entry fits short tail
  have stored := fault_of_merges next whole
  refine mergeWithin_stores next (storeRecord_entry canonical ?_)
  -- A fault inside would be one of the whole.
  rintro number content spec inner rfl known kind form
  rw [Entry.record, Message.storeRecord_child known kind rfl,
    storeChild_last canonical known] at stored
  exact ⟨stored, reads form stored⟩

/-- A message that has the form is read back from its bytes, unless these are refused. -/
theorem mergeWithin_encodeAll {levels : Nat} {type : MessageType} (before : List Entry)
    {after : List Entry} (canonical : Canonical levels type (before ++ after))
    (whole : (mergeWithin levels type before (encodeAll after)).fault = none) :
    (mergeWithin levels type before (encodeAll after)).message = before ++ after := by
  -- Along the levels, and on each along the entries that are still to be read.
  induction levels generalizing type before after with
  | zero => cases whole
  | succ levels ih =>
    induction after generalizing before with
    | nil =>
      rw [encodeAll, mergeWithin_stop (Wire.readRecord_nil levels)]
      simp
    | cons entry rest more =>
      rw [encodeAll] at whole ⊢
      have step := mergeWithin_entry (fun form read => ih [] form read) canonical whole
      rw [step] at whole ⊢
      rw [more _ (by simpa using canonical) whole]
      simp

theorem decode_encode {type : MessageType} {message again : Message}
    (canonical : Canonical levelLimit type message)
    (read : decode type message.encode = .ok again) : again = message := by
  simp only [decode, Message.merge] at read
  split at read
  · cases read
  next whole =>
    cases read
    exact mergeWithin_encodeAll [] canonical whole

/-- A set that was written with one file is read as a set of one file. -/
theorem files_of_single {inner set : Message}
    (read : decode .fileSet (Message.encode [.message 1 inner]) = .ok set) :
    ∃ file, files set = [file] := by
  simp only [decode, Message.merge] at read
  split at read
  · cases read
  next whole =>
    cases read
    have known : MessageType.fileSet.field? 1 =
      some ⟨1, "file", .message .file, .repeated⟩ := rfl
    have bytes : Message.encode [.message 1 inner] =
      Wire.encodeDelimited 1 (encodeAll inner) ++ [] := rfl
    rw [bytes, levelLimit] at whole ⊢
    have next := readRecord_delimited known (length_lt_of_merges known whole) 100 []
    have stored := fault_of_merges next whole
    rw [mergeWithin_next next]
    simp only [stored]
    rw [mergeWithin_stop (Wire.readRecord_nil 100), Message.storeRecord_child known rfl rfl]
    exact ⟨_, rfl⟩

end SchemaDoc.Descriptor
