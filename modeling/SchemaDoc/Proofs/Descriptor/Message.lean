import Mathlib.Tactic.Common
import SchemaDoc.Descriptor.Message

/-!
# Changing one field of a message

Setting a nested message gives back what was set, and changing the one at an index changes that
one. Neither touches the nested messages of any other field, nor does unsetting a field.
-/
namespace SchemaDoc.Descriptor

namespace Message

theorem childOf?_of_number? {number other : Nat} {entry : Entry} (field : entry.number? = some number)
    (apart : other ≠ number) : childOf? other entry = none := by
  cases entry <;> simp_all [childOf?, Entry.number?, Ne.symm]

theorem textOf?_of_number? {number other : Nat} {entry : Entry} (field : entry.number? = some number)
    (apart : other ≠ number) : textOf? other entry = none := by
  cases entry <;> simp_all [textOf?, Entry.number?, Ne.symm]

theorem eq_of_childOf? {number : Nat} {entry : Entry} {content : Message}
    (found : childOf? number entry = some content) : entry = .message number content := by
  cases entry <;> simp_all [childOf?]

theorem children_cons (number : Nat) (entry : Entry) (rest : Message) :
    children number (entry :: rest) = (childOf? number entry).toList ++ children number rest := by
  rw [children, List.filterMap_cons]
  cases childOf? number entry <;> rfl

/-! ### Setting a field that occurs once -/

/-- Setting a field does not show where nothing of that field is looked at. -/
theorem filterMap_setChild {Value : Type} {number : Nat} {view : Entry → Option Value}
    (blind : ∀ entry, entry.number? = some number → view entry = none) (message content : Message) :
    (message.setChild number content).filterMap view = message.filterMap view := by
  have skipped : view (.message number content) = none := blind _ rfl
  rw [setChild]
  induction message with
  | nil => simp [update, skipped]
  | cons entry rest ih =>
    rw [update]
    split
    next found field =>
      split
      · rw [List.filterMap_cons, List.filterMap_cons, ih]
      · split
        next same =>
          -- The entry that makes way is of the field that is set, so it did not show either.
          rw [List.filterMap_cons, List.filterMap_cons, skipped, blind entry (same ▸ field)]
        · rw [List.filterMap_cons, skipped]
    · rw [List.filterMap_cons, skipped]

theorem children_setChild_ne (message : Message) {number other : Nat} (content : Message)
    (apart : other ≠ number) :
    (message.setChild number content).children other = message.children other :=
  filterMap_setChild (fun _ field => childOf?_of_number? field apart) message content

theorem texts_setChild_ne (message : Message) {number other : Nat} (content : Message)
    (apart : other ≠ number) :
    (message.setChild number content).texts other = message.texts other :=
  filterMap_setChild (fun _ field => textOf?_of_number? field apart) message content

theorem child?_setChild_ne (message : Message) {number other : Nat} (content : Message)
    (apart : other ≠ number) :
    (message.setChild number content).child? other = message.child? other := by
  rw [child?, children_setChild_ne message content apart, child?]

theorem child?_setChild (message : Message) (number : Nat) (content : Message) :
    (message.setChild number content).child? number = some content := by
  have shown : childOf? number (.message number content) = some content := by simp [childOf?]
  rw [child?, setChild]
  induction message with
  | nil => simp [update, children, shown]
  | cons entry rest ih =>
    rw [update]
    split
    next found field =>
      split
      next below =>
        -- What stays in front is of fields with smaller numbers.
        rw [children_cons, childOf?_of_number? field (Nat.ne_of_gt below), Option.toList_none,
          List.nil_append]
        exact ih
      · split <;> rw [children_cons, shown] <;> rfl
    · rw [children_cons, shown]
      rfl

/-! ### Unsetting a field -/

/-- Unsetting a field does not show where nothing of that field is looked at. -/
theorem filterMap_clear {Value : Type} {number : Nat} {view : Entry → Option Value}
    (blind : ∀ entry, entry.number? = some number → view entry = none) (message : Message) :
    (message.clear number).filterMap view = message.filterMap view := by
  rw [clear, List.filterMap_filter]
  congr 1
  funext entry
  split
  · rfl
  next gone => exact (blind entry (by simpa [Entry.isField] using gone)).symm

theorem children_clear_ne (message : Message) {number other : Nat} (apart : other ≠ number) :
    (message.clear number).children other = message.children other :=
  filterMap_clear (fun _ field => childOf?_of_number? field apart) message

theorem texts_clear_ne (message : Message) {number other : Nat} (apart : other ≠ number) :
    (message.clear number).texts other = message.texts other :=
  filterMap_clear (fun _ field => textOf?_of_number? field apart) message

theorem child?_clear_ne (message : Message) {number other : Nat} (apart : other ≠ number) :
    (message.clear number).child? other = message.child? other := by
  rw [child?, children_clear_ne message apart, child?]

/-! ### Changing one of several -/

theorem children_modifyNth (number : Nat) (change : Message → Message) (index : Nat)
    (message : Message) :
    (message.modifyNth number change index).children number =
      (message.children number).modify index change := by
  induction message generalizing index with
  | nil => simp [modifyNth, children]
  | cons entry rest ih =>
    rw [children_cons number entry]
    cases found : childOf? number entry with
    | none => simp [modifyNth, children_cons, found, ih]
    | some content =>
      cases index with
      | zero =>
        have shown : childOf? number (.message number (change content)) = some (change content) := by
          simp [childOf?]
        simp [modifyNth, children_cons, found, shown]
      | succ index => simp [modifyNth, children_cons, found, ih]

theorem children_modifyNth_ne {number other : Nat} (change : Message → Message) (index : Nat)
    (message : Message) (apart : other ≠ number) :
    (message.modifyNth number change index).children other = message.children other := by
  induction message generalizing index with
  | nil => simp [modifyNth]
  | cons entry rest ih =>
    rw [children_cons other entry]
    cases found : childOf? number entry with
    | none => simp [modifyNth, children_cons, found, ih]
    | some content =>
      cases index with
      | zero =>
        have field : entry.number? = some number := by
          cases entry <;> simp_all [childOf?, Entry.number?]
        have skipped : childOf? other (.message number (change content)) = none :=
          childOf?_of_number? rfl apart
        simp [modifyNth, children_cons, found, skipped, childOf?_of_number? field apart]
      | succ index => simp [modifyNth, children_cons, found, ih]

theorem child?_modifyNth_ne {number other : Nat} (change : Message → Message) (index : Nat)
    (message : Message) (apart : other ≠ number) :
    (message.modifyNth number change index).child? other = message.child? other := by
  rw [child?, children_modifyNth_ne change index message apart, child?]

/-- The nested message that is changed stands between entries that stay. -/
theorem modifyNth_split {number index : Nat} {message inner : Message}
    (found : (message.children number)[index]? = some inner) :
    ∃ front back, message = front ++ .message number inner :: back ∧
      ∀ change, message.modifyNth number change index =
        front ++ .message number (change inner) :: back := by
  induction message generalizing index with
  | nil => simp [children] at found
  | cons entry rest ih =>
    rw [children_cons] at found
    cases held : childOf? number entry with
    | none =>
      rw [held] at found
      obtain ⟨front, back, rfl, changed⟩ := ih found
      exact ⟨entry :: front, back, rfl, fun change => by simp [modifyNth, held, changed]⟩
    | some content =>
      rw [held] at found
      cases index with
      | zero =>
        cases found
        exact ⟨[], rest, by rw [eq_of_childOf? held]; rfl, fun change => by simp [modifyNth, held]⟩
      | succ index =>
        obtain ⟨front, back, rfl, changed⟩ := ih (by simpa using found)
        exact ⟨entry :: front, back, rfl, fun change => by simp [modifyNth, held, changed]⟩

end Message

end SchemaDoc.Descriptor
