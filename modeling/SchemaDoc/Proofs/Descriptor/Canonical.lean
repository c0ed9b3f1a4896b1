import Mathlib.Data.List.Pairwise
import SchemaDoc.Descriptor.Decoding
import SchemaDoc.Proofs.Descriptor.Message
import SchemaDoc.Proofs.Descriptor.Schema

/-!
# The form in which messages are read

Reading leaves a message in a form of its own. Its fields ascend by number, and only a repeated
field has several entries; every value is one that its field admits; and behind the fields stand
the records that the type does not declare, which are the same when they are read again. The form
is kept when a field is set, added to, unset or replaced.

The form is stated with the levels that are left to go down, since a group that is not looked into
counts towards their limit.
-/
namespace SchemaDoc.Descriptor

open Text (Bytes)

/-! ### The form -/

/-- Whether a field may have several entries. -/
def MessageType.repeats (type : MessageType) (number : Nat) : Bool :=
  (type.field? number).any (·.occurrence == .repeated)

/-- One entry of a message may stand somewhere before another. -/
def Entry.Before (type : MessageType) (first second : Entry) : Prop :=
  match first.number?, second.number? with
  | some number, some other => number < other ∨ (number = other ∧ type.repeats number = true)
  | none, some _ => False
  | _, none => True

/-- A record stays as it came, also when it is read again from its own bytes. -/
structure Kept (depth : Nat) (type : MessageType) (record : Wire.Record) : Prop where
  reads : ∀ rest, Wire.readRecord depth (record.raw ++ rest) = some (record, rest)
  stays : ∀ readChild message, Message.storeRecord readChild type message record =
    { message := message ++ [.unknown record] }

/-- An entry is one that reading a message of a type can leave, where `Inner` says the same of
nested messages. -/
def Entry.Fits (Inner : MessageType → Message → Prop) (depth : Nat) (type : MessageType) :
    Entry → Prop
  | .scalar number value => ∃ spec, type.field? number = some spec ∧ spec.occurrence ≠ .packed ∧
    spec.kind.admit? (toWord value) = some value
  | .packed number values => ∃ spec, type.field? number = some spec ∧ spec.occurrence = .packed ∧
    values ≠ [] ∧ ∀ value ∈ values, spec.kind.admit? (toWord value) = some value
  | .fixed64 number content => ∃ spec, type.field? number = some spec ∧ spec.kind = .double ∧
    content.length = 8
  | .text number _ => ∃ spec, type.field? number = some spec ∧
    (spec.kind = .string ∨ spec.kind = .bytes)
  | .message number content => ∃ spec child, type.field? number = some spec ∧
    spec.kind = .message child ∧ Inner child content
  | .unknown record => Kept depth type record

/-- A message of a type is in the form in which it is read, with so many levels left to go down.
On the last level nothing can be read, and no descriptor lies there. -/
def Canonical : Nat → MessageType → Message → Prop
  | 0, type, _ => ∀ kind : EntityKind, kind.descriptorType ≠ type
  | levels + 1, type, message =>
    message.Pairwise (Entry.Before type) ∧
      ∀ entry ∈ message, entry.Fits (Canonical levels) levels type

theorem MessageType.repeats_of_field? {type : MessageType} {number : Nat} {spec : FieldSpec}
    (known : type.field? number = some spec) :
    type.repeats number = true ↔ spec.occurrence = .repeated := by
  simp [MessageType.repeats, known]

/-! ### Where an entry goes -/

namespace Message

/-- What starts with an entry that comes later comes later. -/
theorem later_of_cons {number : Nat} {entry : Entry} {rest : List Entry}
    (bound : ∀ other, entry.number? = some other → number < other) :
    ∀ first, (entry :: rest).head? = some first → ∀ other, first.number? = some other →
      number < other := by
  intro first head
  cases head
  exact bound

/-- Setting a field that occurs once puts the entry behind the fields with smaller numbers, in
place of the one that was there. -/
theorem update_split (number : Nat) (message : Message) :
    ∃ front back, (∀ entry ∈ front, ∃ other < number, entry.number? = some other) ∧
      ((∃ held, message = front ++ held :: back ∧ held.number? = some number ∧
          ∀ change, message.update number change = front ++ change (some held) :: back) ∨
        (message = front ++ back ∧
          (∀ entry, back.head? = some entry → ∀ other, entry.number? = some other →
            number < other) ∧
          ∀ change, message.update number change = front ++ change none :: back)) := by
  induction message with
  | nil => exact ⟨[], [], by simp, Or.inr ⟨rfl, by simp, fun _ => rfl⟩⟩
  | cons entry rest ih =>
    cases found : entry.number? with
    | none =>
      -- Fields stand before everything that has no number.
      exact ⟨[], entry :: rest, by simp, Or.inr ⟨rfl, later_of_cons (by simp [found]),
        fun change => by simp [update, found]⟩⟩
    | some other =>
      by_cases below : other < number
      · obtain ⟨front, back, early, places⟩ := ih
        refine ⟨entry :: front, back, ?_, ?_⟩
        · intro first member
          rcases List.mem_cons.mp member with rfl | inside
          · exact ⟨other, below, found⟩
          · exact early first inside
        · rcases places with ⟨held, rfl, field, placed⟩ | ⟨rfl, later, placed⟩
          · exact Or.inl ⟨held, rfl, field, fun change => by simp [update, found, below, placed]⟩
          · exact Or.inr ⟨rfl, later, fun change => by simp [update, found, below, placed]⟩
      · by_cases here : other = number
        · subst here
          exact ⟨[], rest, by simp, Or.inl ⟨entry, rfl, found, fun change => by
            simp [update, found]⟩⟩
        · have bound : number < other := by omega
          exact ⟨[], entry :: rest, by simp, Or.inr ⟨rfl,
            later_of_cons (by simpa [found] using bound),
            fun change => by simp [update, found, below, here]⟩⟩

/-- Adding to a repeated field puts the entry behind the fields with numbers up to its own. -/
theorem add_split (number : Nat) (added : Entry) (message : Message) :
    ∃ front back, message = front ++ back ∧
      (∀ entry ∈ front, ∃ other ≤ number, entry.number? = some other) ∧
      (∀ entry, back.head? = some entry → ∀ other, entry.number? = some other → number < other) ∧
      message.add number added = front ++ added :: back := by
  induction message with
  | nil => exact ⟨[], [], rfl, by simp, by simp, rfl⟩
  | cons entry rest ih =>
    cases found : entry.number? with
    | none =>
      exact ⟨[], entry :: rest, rfl, by simp, later_of_cons (by simp [found]), by simp [add, found]⟩
    | some other =>
      by_cases below : other ≤ number
      · obtain ⟨front, back, rfl, early, later, placed⟩ := ih
        refine ⟨entry :: front, back, rfl, ?_, later, by simp [add, found, below, placed]⟩
        intro first member
        rcases List.mem_cons.mp member with rfl | inside
        · exact ⟨other, below, found⟩
        · exact early first inside
      · have bound : number < other := by omega
        exact ⟨[], entry :: rest, rfl, by simp, later_of_cons (by simpa [found] using bound),
          by simp [add, found, below]⟩

/-- Setting a field passes over those with smaller numbers. -/
theorem update_early {number : Nat} {message : Message}
    (early : ∀ entry ∈ message, ∃ other < number, entry.number? = some other) (back : List Entry)
    (change : Option Entry → Entry) :
    (message ++ back).update number change = message ++ Message.update number change back := by
  induction message with
  | nil => rfl
  | cons entry rest ih =>
    obtain ⟨other, below, found⟩ := early entry (by simp)
    have inner := ih fun entry member => early entry (by simp [member])
    simp [update, found, below, inner]

theorem update_append {number : Nat} {message : Message}
    (early : ∀ entry ∈ message, ∃ other < number, entry.number? = some other)
    (change : Option Entry → Entry) :
    message.update number change = message ++ [change none] := by
  have passed := update_early early [] change
  rw [List.append_nil] at passed
  exact passed

theorem update_at {number : Nat} {message : Message} {held : Entry}
    (early : ∀ entry ∈ message, ∃ other < number, entry.number? = some other)
    (field : held.number? = some number) (back : List Entry) (change : Option Entry → Entry) :
    (message ++ held :: back).update number change = message ++ change (some held) :: back := by
  rw [update_early early, update, field]
  simp

theorem add_append {number : Nat} {message : Message}
    (early : ∀ entry ∈ message, ∃ other ≤ number, entry.number? = some other) (added : Entry) :
    message.add number added = message ++ [added] := by
  induction message with
  | nil => rfl
  | cons entry rest ih =>
    obtain ⟨other, below, found⟩ := early entry (by simp)
    have inner := ih fun entry member => early entry (by simp [member])
    simp [add, found, below, inner]

theorem number?_ne_of_early {number : Nat} {message : Message}
    (early : ∀ entry ∈ message, ∃ other < number, entry.number? = some other) :
    ∀ entry ∈ message, entry.number? ≠ some number := by
  intro entry member same
  obtain ⟨other, below, found⟩ := early entry member
  rw [found] at same
  cases same
  omega

theorem children_eq_nil {number : Nat} {message : Message}
    (apart : ∀ entry ∈ message, entry.number? ≠ some number) : message.children number = [] := by
  rw [children, List.filterMap_eq_nil_iff]
  intro entry member
  cases held : childOf? number entry with
  | none => rfl
  | some content =>
    have field := apart entry member
    rw [eq_of_childOf? held] at field
    exact absurd rfl field

theorem child?_eq_none {number : Nat} {message : Message}
    (apart : ∀ entry ∈ message, entry.number? ≠ some number) : message.child? number = none := by
  rw [child?, children_eq_nil apart]
  rfl

theorem child?_at {number : Nat} {message : Message}
    (apart : ∀ entry ∈ message, entry.number? ≠ some number) (content : Message)
    (back : List Entry) :
    (message ++ .message number content :: back).child? number = some content := by
  have shown : childOf? number (.message number content) = some content := by simp [childOf?]
  have nothing := children_eq_nil apart
  rw [children] at nothing
  rw [child?, children, List.filterMap_append, nothing, List.filterMap_cons, shown]
  rfl

end Message

/-! ### Keeping the form -/

/-- What follows the first entry has a number at least as large. -/
theorem later_of_head {type : MessageType} {back : List Entry} {number : Nat}
    (sorted : back.Pairwise (Entry.Before type))
    (later : ∀ entry, back.head? = some entry → ∀ other, entry.number? = some other →
      number < other) :
    ∀ entry ∈ back, ∀ other, entry.number? = some other → number < other := by
  intro entry member other found
  cases back with
  | nil => cases member
  | cons head rest =>
    rcases List.mem_cons.mp member with rfl | inside
    · exact later entry rfl other found
    · have order := (List.pairwise_cons.mp sorted).1 entry inside
      cases first : head.number? with
      | none => simp [Entry.Before, first, found] at order
      | some middle =>
        have bound := later head rfl middle first
        simp only [Entry.Before, first, found] at order
        omega

/-- An entry may come between others if it belongs behind those before it, and if no field of a
smaller number, nor one of its own that is single, comes after it. -/
theorem pairwise_insert {type : MessageType} {front back : List Entry} {placed : Entry}
    {number : Nat} (field : placed.number? = some number)
    (sorted : (front ++ back).Pairwise (Entry.Before type))
    (early : ∀ entry ∈ front, ∃ other, entry.number? = some other ∧
      (other < number ∨ (other = number ∧ type.repeats number = true)))
    (later : ∀ entry, back.head? = some entry → ∀ other, entry.number? = some other →
      number < other) :
    (front ++ placed :: back).Pairwise (Entry.Before type) := by
  rw [List.pairwise_append] at sorted ⊢
  obtain ⟨ahead, behind, across⟩ := sorted
  refine ⟨ahead, List.pairwise_cons.mpr ⟨?_, behind⟩, ?_⟩
  · intro entry member
    simp only [Entry.Before, field]
    cases found : entry.number? with
    | none => trivial
    | some other => exact Or.inl (later_of_head behind later entry member other found)
  · intro entry member other inside
    rcases List.mem_cons.mp inside with rfl | inside
    · obtain ⟨earlier, found, bound⟩ := early entry member
      simp only [Entry.Before, field, found]
      rcases bound with below | ⟨rfl, repeats⟩
      · exact Or.inl below
      · exact Or.inr ⟨rfl, repeats⟩
    · exact across entry member other inside

/-- Only the numbers of the entries count for their order. -/
theorem pairwise_of_numbers {type : MessageType} {first second : List Entry}
    (same : first.map Entry.number? = second.map Entry.number?)
    (sorted : first.Pairwise (Entry.Before type)) : second.Pairwise (Entry.Before type) := by
  induction first generalizing second with
  | nil =>
    cases second with
    | nil => exact List.Pairwise.nil
    | cons => cases same
  | cons entry rest ih =>
    cases second with
    | nil => cases same
    | cons entry' rest' =>
      obtain ⟨heads, tails⟩ := List.cons_eq_cons.mp same
      obtain ⟨least, behind⟩ := List.pairwise_cons.mp sorted
      refine List.pairwise_cons.mpr ⟨fun other inside => ?_, ih tails behind⟩
      have listed : other.number? ∈ rest.map Entry.number? := tails ▸ List.mem_map_of_mem inside
      obtain ⟨twin, member, twins⟩ := List.mem_map.mp listed
      have order := least twin member
      rw [Entry.Before, heads, twins] at order
      exact order

/-- An entry may be replaced by one of the same field. -/
theorem pairwise_replace {type : MessageType} {front back : List Entry} {held placed : Entry}
    (same : placed.number? = held.number?)
    (sorted : (front ++ held :: back).Pairwise (Entry.Before type)) :
    (front ++ placed :: back).Pairwise (Entry.Before type) :=
  pairwise_of_numbers (by simp [same]) sorted

section Keeping

variable {levels : Nat} {type : MessageType} {message : Message} {number : Nat} {spec : FieldSpec}

theorem Canonical.nil : Canonical (levels + 1) type [] :=
  ⟨List.Pairwise.nil, by simp⟩

/-- An entry that fits and that belongs where it stands may stand among others that fit. -/
theorem Canonical.placed {front back : List Entry} {placed : Entry}
    (sorted : (front ++ placed :: back).Pairwise (Entry.Before type))
    (others : ∀ entry ∈ front ++ back, entry.Fits (Canonical levels) levels type)
    (fits : placed.Fits (Canonical levels) levels type) :
    Canonical (levels + 1) type (front ++ placed :: back) := by
  refine ⟨sorted, List.forall_mem_append.mpr ⟨fun entry ahead => ?_,
    List.forall_mem_cons.mpr ⟨fits, fun entry behind => ?_⟩⟩⟩
  · exact others entry (List.mem_append_left back ahead)
  · exact others entry (List.mem_append_right front behind)

/-- An entry of the form may be replaced by another of the same field. -/
theorem Canonical.swap {front back : List Entry} {held placed : Entry}
    (canonical : Canonical (levels + 1) type (front ++ held :: back))
    (same : placed.number? = held.number?) (fits : placed.Fits (Canonical levels) levels type) :
    Canonical (levels + 1) type (front ++ placed :: back) := by
  have fewer : (front ++ back).Sublist (front ++ held :: back) :=
    (List.sublist_cons_self held back).append_left front
  exact .placed (pairwise_replace same canonical.1)
    (fun entry member => canonical.2 entry (fewer.subset member)) fits

/-- A field that is set to what fits keeps the form. -/
theorem Canonical.update (canonical : Canonical (levels + 1) type message)
    {change : Option Entry → Entry} (field : ∀ held, (change held).number? = some number)
    (fits : ∀ held, (∀ entry, held = some entry → entry ∈ message ∧ entry.number? = some number) →
      (change held).Fits (Canonical levels) levels type) :
    Canonical (levels + 1) type (message.update number change) := by
  obtain ⟨front, back, early, ⟨held, rfl, same, placed⟩ | ⟨rfl, later, placed⟩⟩ :=
    Message.update_split number message
  · rw [placed]
    refine canonical.swap (by rw [field, same]) (fits _ fun entry shown => ?_)
    cases shown
    exact ⟨by simp, same⟩
  · rw [placed]
    refine .placed (pairwise_insert (field none) canonical.1 (fun entry member => ?_) later)
      canonical.2 (fits none (by simp))
    obtain ⟨other, below, found⟩ := early entry member
    exact ⟨other, found, Or.inl below⟩

/-- One more entry of a repeated field keeps the form if it fits. -/
theorem Canonical.add (canonical : Canonical (levels + 1) type message)
    {added : Entry} (field : added.number? = some number) (repeats : type.repeats number = true)
    (fits : added.Fits (Canonical levels) levels type) :
    Canonical (levels + 1) type (message.add number added) := by
  obtain ⟨front, back, rfl, early, later, placed⟩ := Message.add_split number added message
  rw [placed]
  refine .placed (pairwise_insert field canonical.1 (fun entry member => ?_) later) canonical.2 fits
  obtain ⟨other, below, found⟩ := early entry member
  refine ⟨other, found, ?_⟩
  by_cases same : other = number
  · exact Or.inr ⟨same, repeats⟩
  · exact Or.inl (by omega)

/-- One more record that the type does not declare keeps the form. -/
theorem Canonical.append_unknown (canonical : Canonical (levels + 1) type message)
    {record : Wire.Record} (kept : Kept levels type record) :
    Canonical (levels + 1) type (message ++ [.unknown record]) := by
  obtain ⟨sorted, all⟩ := canonical
  constructor
  · rw [List.pairwise_append]
    refine ⟨sorted, List.pairwise_singleton _ _, fun entry _ other member => ?_⟩
    rw [List.mem_singleton.mp member]
    simp [Entry.Before, Entry.number?]
  · intro entry member
    rcases List.mem_append.mp member with old | new
    · exact all entry old
    · rw [List.mem_singleton.mp new]
      exact kept

/-- Unsetting a field keeps the form. -/
theorem Canonical.clear (canonical : Canonical (levels + 1) type message) (number : Nat) :
    Canonical (levels + 1) type (message.clear number) := by
  obtain ⟨sorted, all⟩ := canonical
  exact ⟨sorted.filter _, fun entry member => all entry (List.mem_filter.mp member).1⟩

/-- A nested message of the form may be replaced by another of its type. -/
theorem Canonical.replace {front back : List Entry} {inner : Message}
    (canonical : Canonical (levels + 1) type (front ++ .message number inner :: back))
    {below : MessageType}
    (declared : (type.field? number).map (·.kind) = some (.message below)) :
    Canonical levels below inner ∧ ∀ after, Canonical levels below after →
      Canonical (levels + 1) type (front ++ .message number after :: back) := by
  obtain ⟨spec, known, ofType⟩ := Option.map_eq_some_iff.mp declared
  constructor
  · obtain ⟨spec', inside, known', ofType', fits⟩ := canonical.2 (.message number inner) (by simp)
    rw [known] at known'
    cases known'
    rw [ofType] at ofType'
    cases ofType'
    exact fits
  · intro after fits
    exact canonical.swap rfl ⟨spec, below, known, ofType, fits⟩

theorem Canonical.child? (canonical : Canonical (levels + 1) type message)
    (known : type.field? number = some spec) {inner : MessageType}
    (kind : spec.kind = .message inner) {held : Message}
    (found : message.child? number = some held) : Canonical levels inner held := by
  obtain ⟨entry, member, shown⟩ := List.mem_filterMap.mp (List.mem_of_head? found)
  have fits := canonical.2 entry member
  cases entry with
  | message other content =>
    simp only [Message.childOf?] at shown
    split at shown <;> cases shown
    next here =>
      obtain ⟨spec', child, known', kind', inside⟩ := fits
      rw [here, known] at known'
      cases known'
      rw [kind] at kind'
      cases kind'
      exact inside
  | _ => cases shown

end Keeping

/-! ### What stands before an entry -/

section Early

variable {levels : Nat} {type : MessageType} {before rest : List Entry} {entry : Entry}
  {number : Nat} {spec : FieldSpec}

theorem Canonical.early (canonical : Canonical (levels + 1) type (before ++ entry :: rest))
    (field : entry.number? = some number) : ∀ first ∈ before, ∃ other,
      first.number? = some other ∧
        (other < number ∨ (other = number ∧ type.repeats number = true)) := by
  intro first member
  have order := (List.pairwise_append.mp canonical.1).2.2 first member entry (by simp)
  cases found : first.number? with
  | none => simp [Entry.Before, found, field] at order
  | some other =>
    simp only [Entry.Before, found, field] at order
    refine ⟨other, rfl, ?_⟩
    rcases order with below | ⟨rfl, repeats⟩
    · exact Or.inl below
    · exact Or.inr ⟨rfl, repeats⟩

theorem Canonical.early_single (canonical : Canonical (levels + 1) type (before ++ entry :: rest))
    (field : entry.number? = some number) (known : type.field? number = some spec)
    (single : spec.occurrence ≠ .repeated) :
    ∀ first ∈ before, ∃ other < number, first.number? = some other := by
  intro first member
  obtain ⟨other, found, below | ⟨_, repeats⟩⟩ := canonical.early field first member
  · exact ⟨other, below, found⟩
  · exact absurd ((MessageType.repeats_of_field? known).mp repeats) single

theorem Canonical.early_repeated (canonical : Canonical (levels + 1) type (before ++ entry :: rest))
    (field : entry.number? = some number) :
    ∀ first ∈ before, ∃ other ≤ number, first.number? = some other := by
  intro first member
  obtain ⟨other, found, below | ⟨same, _⟩⟩ := canonical.early field first member
  · exact ⟨other, Nat.le_of_lt below, found⟩
  · exact ⟨other, Nat.le_of_eq same, found⟩

end Early

/-! ### A nested message that occurs once -/

section Single

variable {levels : Nat} {type inner : MessageType} {number : Nat} {spec : FieldSpec}

/-- An entry of a field that holds a message is one. -/
theorem Entry.Fits.eq_message {Inner : MessageType → Message → Prop} {depth : Nat} {entry : Entry}
    (fits : entry.Fits Inner depth type) (field : entry.number? = some number)
    (known : type.field? number = some spec) (kind : spec.kind = .message inner) :
    ∃ content, entry = .message number content := by
  cases entry with
  | message other content =>
    cases field
    exact ⟨content, rfl⟩
  | unknown => cases field
  | packed =>
    cases field
    obtain ⟨spec', known', packed, _⟩ := fits
    have int := MessageType.kind_of_packed known' packed
    rw [known] at known'
    cases known'
    rw [kind] at int
    cases int
  | scalar | fixed64 | text =>
    cases field
    obtain ⟨spec', known', rest⟩ := fits
    rw [known] at known'
    cases known'
    simp [kind, FieldKind.admit?] at rest

/-- A message of the form holds the nested message in one place only, which is where it is set. -/
theorem Canonical.split_single {message : Message}
    (canonical : Canonical (levels + 1) type message) (known : type.field? number = some spec)
    (kind : spec.kind = .message inner) (single : spec.occurrence = .single) :
    ∃ front back, (∀ entry ∈ front ++ back, entry.number? ≠ some number) ∧
      message = front ++ (message.child? number).toList.map (.message number) ++ back ∧
      ∀ content, message.setChild number content = front ++ .message number content :: back := by
  obtain ⟨front, back, early, ⟨held, rfl, field, placed⟩ | ⟨rfl, later, placed⟩⟩ :=
    Message.update_split number message
  · obtain ⟨options, rfl⟩ := (canonical.2 held (by simp)).eq_message field known kind
    refine ⟨front, back, ?_, ?_, fun content => placed _⟩
    · intro entry member same
      rcases List.mem_append.mp member with ahead | behind
      · exact Message.number?_ne_of_early early entry ahead same
      · -- A field that occurs once has no second entry.
        have sorted := (List.pairwise_append.mp canonical.1).2.1
        have order := (List.pairwise_cons.mp sorted).1 entry behind
        simp only [Entry.Before, same, field] at order
        rcases order with below | ⟨_, repeats⟩
        · omega
        · rw [MessageType.repeats_of_field? known, single] at repeats
          cases repeats
    · rw [Message.child?_at (Message.number?_ne_of_early early)]
      simp
  · have apart : ∀ entry ∈ front ++ back, entry.number? ≠ some number := by
      intro entry member same
      rcases List.mem_append.mp member with ahead | behind
      · exact Message.number?_ne_of_early early entry ahead same
      · have sorted := (List.pairwise_append.mp canonical.1).2.1
        exact Nat.lt_irrefl _ (later_of_head sorted later entry behind number same)
    refine ⟨front, back, apart, ?_, fun content => placed _⟩
    rw [Message.child?_eq_none apart]
    simp

end Single

end SchemaDoc.Descriptor
