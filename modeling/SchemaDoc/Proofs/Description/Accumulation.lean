import SchemaDoc.Proofs.Description.Growth
import SchemaDoc.Proofs.Descriptor.Requirement
import SchemaDoc.Proofs.Descriptor.Writing

/-!
# Lists of descriptions

Options keep a list of descriptions under each number that their type does not declare. Whatever
is appended, under whichever of these numbers and in whatever order, each list has what it had at
first, and behind that, once and in the order of the appending, what came to it. Nothing else in
the options changes, and they can be written and read back at any time. Of the options it is asked
that no required field is missing from them, since descriptions are looked for in what they are
written as.

All of this follows from what a single appending does: it leaves the options alone, or puts one
record behind everything in them.
-/
namespace SchemaDoc.Description

open Descriptor
open Text (Bytes)

/-- A description to be appended under a number. -/
structure Addition where
  number : OptionNumber
  text : Bytes

/-- Whether a description can be stored: it is text and not too long for a record. -/
def isStorable (text : Bytes) : Bool :=
  (Text.decode text).isSome && decide (text.length < Wire.sizeLimit)

/-- The options after descriptions were appended, one after another. -/
def appendAll (type : MessageType) (options : Message) (additions : List Addition) : Message :=
  additions.foldl
    (fun options addition => (append type options addition.number.value addition.text).options)
    options

/-- The descriptions that are appended under a number and can be stored, in order. -/
def textsUnder (number : Nat) (additions : List Addition) : List Bytes :=
  ((additions.filter (·.number.value == number)).map (·.text)).filter isStorable

/-- Whether an entry is none of those in which descriptions are kept under the numbers of
additions: it is a declared field, or a record under another number or in another form. -/
def isApart (additions : List Addition) (entry : Entry) : Bool :=
  additions.all fun addition => (entry.delimited? addition.number.value).isNone

/-- What an appending says, and when the options stay as they are. -/
structure Answers (type : MessageType) (options : Message) (addition : Addition)
    (appending : Appending) : Prop where
  /-- The description was added just when the list under its number has become longer. -/
  grew : ∃ before after, retrieve type options addition.number.value = .ok before ∧
    retrieve type appending.options addition.number.value = .ok after ∧
      (appending.added = .ok true ↔ before.length < after.length)
  /-- Unless it was added, the options are the same. -/
  stayed : appending.added ≠ .ok true → appending.options = options
  /-- There is an answer for every description that can be stored. -/
  answered : isStorable addition.text = true → ∃ added, appending.added = .ok added

/-- What has become of options after additions. -/
structure Accumulates (type : MessageType) (options : Message) (additions : List Addition)
    (final : Message) : Prop where
  /-- Each list has what it had, and behind that what is new to it, once and in order. -/
  lists : ∀ number, ∃ held, retrieve type options number = .ok held ∧
    retrieve type final number = .ok (held ++ newItems held (textsUnder number additions))
  /-- The declared fields are the same. -/
  fields : ∀ number, Message.entries number final = Message.entries number options
  /-- So are all records under other numbers or in other forms. -/
  others : final.filter (isApart additions) = options.filter (isApart additions)
  /-- The options can be written. -/
  writes : final.serialize type = .ok final.encode
  /-- What is read back is the same, if it can be read back. -/
  same : ∀ again, decode type final.encode = .ok again → again = final
  /-- It can, unless the options were too long to be written to begin with. -/
  readsBack : options.encode.length < Wire.sizeLimit → decode type final.encode = .ok final
  /-- Then a reader that declares the number finds the list in the bytes. -/
  carries : options.encode.length < Wire.sizeLimit → ∀ number texts,
    retrieve type final number = .ok texts → carried number final.encode = some texts

variable {type : MessageType} {options : Message} {addition : Addition}
  {additions : List Addition}

/-! ### One addition -/

/-- What comes of one addition. -/
inductive Adds (options : Message) (addition : Addition) : Appending → Prop
  | known (present : addition.text ∈ read options addition.number.value) :
    Adds options addition { options, added := .ok false }
  | new (absent : addition.text ∉ read options addition.number.value)
      (storable : isStorable addition.text = true) :
    Adds options addition
      { options := options ++ [entryOf addition.number addition.text], added := .ok true }
  | refused (unfit : isStorable addition.text = false) (error : StoreError) :
    Adds options addition { options, added := .error error }

theorem append_adds (undeclared : type.declares addition.number.value = false)
    (complete : options.IsComplete type) :
    Adds options addition (append type options addition.number.value addition.text) := by
  rw [append_eq undeclared complete]
  split
  next present => exact .known present
  next absent =>
    split
    next none => exact .refused (by simp [isStorable, Option.isNone_iff_eq_none.mp none]) _
    next text =>
      have readable : (Text.decode addition.text).isSome = true := by
        simpa [Option.isSome_iff_ne_none] using text
      split
      next short => exact .new absent (by simp [isStorable, readable, short])
      next long => exact .refused (by simp [isStorable, long]) _

section Adding

variable {appending : Appending} (adds : Adds options addition appending)
include adds

/-- Records are not among the fields that may be required. -/
theorem Adds.complete (ofOptions : type.isOptions = true) (complete : options.IsComplete type) :
    appending.options.IsComplete type := by
  cases adds with
  | known | refused => exact complete
  | new =>
    refine (Message.isComplete_options_congr ofOptions ?_).mpr complete
    simp [Message.entries, Entry.isField, Entry.number?]

theorem Adds.answers (ofOptions : type.isOptions = true) (complete : options.IsComplete type) :
    Answers type options addition appending := by
  have whole := adds.complete ofOptions complete
  have grew {result : Prop} (told : result ↔
      (Description.read options addition.number.value).length <
        (Description.read appending.options addition.number.value).length) :
      ∃ before after, retrieve type options addition.number.value = .ok before ∧
        retrieve type appending.options addition.number.value = .ok after ∧
          (result ↔ before.length < after.length) :=
    ⟨_, _, retrieve_of_complete complete _, retrieve_of_complete whole _, told⟩
  cases adds with
  | known => exact ⟨grew (by simp), fun _ => rfl, fun _ => ⟨false, rfl⟩⟩
  | new =>
    exact ⟨grew (by simp [read_append_entryOf]), fun other => absurd rfl other,
      fun _ => ⟨true, rfl⟩⟩
  | refused unfit =>
    exact ⟨grew (by simp), fun _ => rfl, fun storable => by simp [unfit] at storable⟩

/-- The options are left alone, or one record comes behind them. -/
theorem Adds.options_cases : appending.options = options ∨
    isStorable addition.text = true ∧
      appending.options = options ++ [entryOf addition.number addition.text] := by
  cases adds with
  | known | refused => exact .inl rfl
  | new _ storable => exact .inr ⟨storable, rfl⟩

theorem Adds.read (number : Nat) : Description.read appending.options number =
    addAllNew (Description.read options number) (textsUnder number [addition]) := by
  by_cases here : addition.number.value = number
  · subst here
    cases adds with
    | known present =>
      -- What is in the list already may well be too long to be stored again.
      cases fits : isStorable addition.text with
      | true => simp [textsUnder, fits, addNew_of_mem present]
      | false => simp [textsUnder, fits]
    | new absent storable =>
      simp [textsUnder, storable, read_append_entryOf, addNew_of_notMem absent]
    | refused unfit => simp [textsUnder, unfit]
  · have none : textsUnder number [addition] = [] := by simp [textsUnder, here]
    rw [none, addAllNew_nil]
    cases adds with
    | known | refused => rfl
    | new =>
      simp [Description.read, Message.delimited, Entry.delimited?, Wire.delimitedRecord, here]

end Adding

/-! ### Records among entries -/

section Records

variable {added : List Entry}
  (origin : ∀ entry ∈ added, ∃ addition ∈ additions, entry = entryOf addition.number addition.text)
include origin

/-- A record is no declared field. -/
theorem entries_of_records (number : Nat) : Message.entries number added = [] := by
  refine List.filter_eq_nil_iff.mpr fun entry member => ?_
  obtain ⟨addition, _, rfl⟩ := origin entry member
  exact Bool.false_ne_true

theorem filter_isApart_of_records : added.filter (isApart additions) = [] := by
  refine List.filter_eq_nil_iff.mpr fun entry member apart => ?_
  -- Each record stands under the number of an addition.
  obtain ⟨addition, inside, rfl⟩ := origin entry member
  have held := List.all_eq_true.mp apart addition inside
  simp [Entry.delimited?, Wire.delimitedRecord] at held

/-- Records are kept as their bytes, so they have no lengths that are still to be written. -/
theorem size_of_records : ∀ entry ∈ added, entry.size < Wire.sizeLimit := by
  intro entry member
  obtain ⟨addition, _, rfl⟩ := origin entry member
  exact (by decide : 0 < Wire.sizeLimit)

end Records

/-! ### All additions -/

theorem appendAll_cons (type : MessageType) (options : Message) (addition : Addition)
    (rest : List Addition) : appendAll type options (addition :: rest) =
      appendAll type (append type options addition.number.value addition.text).options rest :=
  rfl

theorem textsUnder_cons (number : Nat) (addition : Addition) (rest : List Addition) :
    textsUnder number (addition :: rest) =
      textsUnder number [addition] ++ textsUnder number rest := by
  rw [textsUnder, textsUnder, textsUnder, ← List.filter_append, ← List.map_append,
    ← List.filter_append]
  rfl

section Run

variable (ofOptions : type.isOptions = true)
  (undeclared : ∀ addition ∈ additions, type.declares addition.number.value = false)
include ofOptions undeclared

theorem complete_appendAll (complete : options.IsComplete type) :
    (appendAll type options additions).IsComplete type := by
  induction additions generalizing options with
  | nil => exact complete
  | cons addition rest ih =>
    rw [List.forall_mem_cons] at undeclared
    exact ih undeclared.2 ((append_adds undeclared.1 complete).complete ofOptions complete)

theorem read_appendAll (complete : options.IsComplete type) (number : Nat) :
    read (appendAll type options additions) number =
      addAllNew (read options number) (textsUnder number additions) := by
  induction additions generalizing options with
  | nil => rfl
  | cons addition rest ih =>
    rw [List.forall_mem_cons] at undeclared
    have adds := append_adds undeclared.1 complete
    rw [appendAll_cons, ih undeclared.2 (adds.complete ofOptions complete), adds.read,
      textsUnder_cons number addition rest, addAllNew_append]

/-- What comes to the options stands behind all that was in them. -/
theorem appendAll_split (complete : options.IsComplete type) : ∃ added,
    appendAll type options additions = options ++ added ∧
    ∀ entry ∈ added, ∃ addition ∈ additions, entry = entryOf addition.number addition.text := by
  induction additions generalizing options with
  | nil => exact ⟨[], (List.append_nil options).symm, by simp⟩
  | cons addition rest ih =>
    rw [List.forall_mem_cons] at undeclared
    have adds := append_adds undeclared.1 complete
    obtain ⟨added, split, origin⟩ := ih undeclared.2 (adds.complete ofOptions complete)
    have later : ∀ entry ∈ added, ∃ other ∈ addition :: rest,
        entry = entryOf other.number other.text := by
      intro entry member
      obtain ⟨other, inside, same⟩ := origin entry member
      exact ⟨other, List.mem_cons_of_mem _ inside, same⟩
    rw [appendAll_cons, split]
    rcases adds.options_cases with stayed | ⟨_, grown⟩
    · exact ⟨added, by rw [stayed], later⟩
    · refine ⟨entryOf addition.number addition.text :: added, by rw [grown]; simp, ?_⟩
      exact List.forall_mem_cons.mpr ⟨⟨addition, by simp, rfl⟩, later⟩

theorem appendAll_canonical {levels : Nat} (complete : options.IsComplete type)
    (canonical : Canonical (levels + 1) type options) :
    Canonical (levels + 1) type (appendAll type options additions) := by
  induction additions generalizing options with
  | nil => exact canonical
  | cons addition rest ih =>
    rw [List.forall_mem_cons] at undeclared
    have adds := append_adds undeclared.1 complete
    rw [appendAll_cons]
    apply ih undeclared.2 (adds.complete ofOptions complete)
    rcases adds.options_cases with stayed | ⟨storable, grown⟩
    · rwa [stayed]
    · rw [isStorable, Bool.and_eq_true, decide_eq_true_eq] at storable
      rw [grown]
      exact canonical.append_unknown (kept_delimitedRecord levels undeclared.1 storable.2)

end Run

/-- Whatever options were read, if nothing is missing from them, and whatever is appended to them
under numbers that their type does not declare, each number keeps its list of distinct descriptions,
in memory and in what is written; nothing else changes, and every appending says truly whether its
list has grown. -/
theorem appendAll_accumulates (ofOptions : type.isOptions = true) {data : Bytes}
    (parsed : decode type data = .ok options) (complete : options.IsComplete type)
    (undeclared : ∀ addition ∈ additions, type.declares addition.number.value = false) :
    Accumulates type options additions (appendAll type options additions) ∧
    ∀ before addition after, additions = before ++ addition :: after →
      Answers type (appendAll type options before) addition
        (append type (appendAll type options before) addition.number.value addition.text) := by
  obtain ⟨added, split, origin⟩ := appendAll_split ofOptions undeclared complete
  have whole := complete_appendAll ofOptions undeclared complete
  have canonical : Canonical levelLimit type (appendAll type options additions) :=
    appendAll_canonical ofOptions undeclared complete (canonical_of_decode parsed)
  have nests := MessageType.nestsWithin_options ofOptions
  have short : options.encode.length < Wire.sizeLimit →
      ∀ entry ∈ appendAll type options additions, entry.size < Wire.sizeLimit := by
    intro written
    rw [split]
    exact List.forall_mem_append.mpr ⟨size_lt_of_encodeAll written, size_of_records origin⟩
  refine ⟨⟨fun number => ⟨_, retrieve_of_complete complete number, ?_⟩, fun number => ?_, ?_,
    Message.serialize_ok_iff.mpr ⟨whole, rfl⟩, fun again read => ?_, fun written => ?_,
    fun written number texts found => ?_⟩, ?_⟩
  · rw [retrieve_of_complete whole, read_appendAll ofOptions undeclared complete, addAllNew_eq]
  · rw [split, Message.entries, List.filter_append]
    have none := entries_of_records origin number
    exact (congrArg (options.filter _ ++ ·) none).trans (List.append_nil _)
  · rw [split, List.filter_append, filter_isApart_of_records origin, List.append_nil]
  · exact decode_encode canonical read
  · exact decode_encode_of_short nests canonical (short written)
  · rw [retrieve_of_complete whole] at found
    cases found
    exact carried_encode canonical (short written) number
  · rintro before addition after rfl
    have earlier : (appendAll type options before).IsComplete type :=
      complete_appendAll ofOptions (fun other member => undeclared other (by simp [member])) complete
    exact (append_adds (undeclared addition (by simp)) earlier).answers ofOptions earlier

/-- Field options with a declared field, and a number and a text under the same undeclared one. -/
def numberedOptions : Message :=
  [.scalar 3 1, .unknown (Wire.varintRecord 1000 5), entryOf standardNumber [0x61]]

/-- The number behind the standard one. -/
def nextNumber : OptionNumber :=
  ⟨1001, by decide, by decide⟩

/-- What stands already is added again, and under another number, and something new twice. -/
def repeatedAdditions : List Addition :=
  [⟨standardNumber, [0x61]⟩, ⟨nextNumber, [0x61]⟩, ⟨standardNumber, [0x62]⟩,
   ⟨standardNumber, [0x62]⟩]

/-- Two of the four additions are new. -/
theorem appendAll_accumulates_repeated :
    MessageType.fieldOptions.isOptions = true ∧
    decode .fieldOptions numberedOptions.encode = .ok numberedOptions ∧
    numberedOptions.IsComplete .fieldOptions ∧
    (∀ addition ∈ repeatedAdditions,
      MessageType.fieldOptions.declares addition.number.value = false) ∧
    retrieve .fieldOptions (appendAll .fieldOptions numberedOptions repeatedAdditions) 1000 =
      .ok [[0x61], [0x62]] ∧
    retrieve .fieldOptions (appendAll .fieldOptions numberedOptions repeatedAdditions) 1001 =
      .ok [[0x61]] ∧
    Accumulates .fieldOptions numberedOptions repeatedAdditions
      (appendAll .fieldOptions numberedOptions repeatedAdditions) ∧
    ∀ before addition after, repeatedAdditions = before ++ addition :: after →
      Answers .fieldOptions (appendAll .fieldOptions numberedOptions before) addition
        (append .fieldOptions (appendAll .fieldOptions numberedOptions before)
          addition.number.value addition.text) := by
  have parsed : decode .fieldOptions numberedOptions.encode = .ok numberedOptions := by cbv
  have complete : numberedOptions.IsComplete .fieldOptions := by cbv
  have undeclared : ∀ addition ∈ repeatedAdditions,
      MessageType.fieldOptions.declares addition.number.value = false := by
    decide
  exact ⟨rfl, parsed, complete, undeclared, by cbv, by cbv,
    appendAll_accumulates rfl parsed complete undeclared⟩

/-- Options with an uninterpreted option, whose name has a part that does not say whether it is an
extension. -/
def unfinishedOptions : Message :=
  [.message uninterpretedTag [.message 2 [.text 1 [0x61]]]]

/-- They are read from their bytes, but what is stored in them cannot be told, and they take nothing
in. -/
theorem append_unfinished :
    decode .messageOptions [0xBA, 0x3E, 0x05, 0x12, 0x03, 0x0A, 0x01, 0x61] =
      .ok unfinishedOptions ∧
    (¬∃ held, retrieve .messageOptions unfinishedOptions 1000 = .ok held) ∧
    MessageType.messageOptions.declares 1000 = false ∧
    append .messageOptions unfinishedOptions 1000 [0x78] =
      { options := unfinishedOptions
        added := .error (.unwritable
          { type := .messageOptions
            missing := [["uninterpreted_option[0]", "name[0]", "is_extension"]] }) } := by
  have refused : retrieve .messageOptions unfinishedOptions 1000 = .error
      { type := .messageOptions
        missing := [["uninterpreted_option[0]", "name[0]", "is_extension"]] } := by
    cbv
  refine ⟨by cbv, ?_, rfl, by cbv⟩
  rintro ⟨held, found⟩
  cases refused.symm.trans found

end SchemaDoc.Description
