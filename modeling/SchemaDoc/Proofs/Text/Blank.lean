import Mathlib.Data.List.TakeWhile
import Mathlib.Tactic.Common
import SchemaDoc.Text.Blank

/-!
# Where words come from

A blank parts the words before it from those after it, and a run without a blank is one word.
Trimming ends where a word does, so it loses none.
-/
namespace SchemaDoc.Text

variable {Item : Type} {blank : Item → Bool}

theorem wordsBy_cons_ne_nil {item : Item} (rest : List Item) (solid : blank item = false) :
    wordsBy blank (item :: rest) ≠ [] := by
  rw [wordsBy, if_neg (by simp [solid])]
  split
  · exact List.cons_ne_nil _ _
  · cases wordsBy blank rest <;> exact List.cons_ne_nil _ _

/-- A blank parts words. -/
theorem wordsBy_append_cons {item : Item} (parts : blank item = true) (first rest : List Item) :
    wordsBy blank (first ++ item :: rest) = wordsBy blank first ++ wordsBy blank rest := by
  induction first with
  | nil => simp [wordsBy, parts]
  | cons head tail ih =>
    rw [List.cons_append, wordsBy, wordsBy]
    by_cases skipped : blank head = true
    · rw [if_pos skipped, if_pos skipped, ih]
    · rw [if_neg skipped, if_neg skipped]
      cases tail with
      | nil =>
        -- The word ends before the blank that parts.
        rw [wordsBy] at ih
        simp [parts, wordsBy]
      | cons next more =>
        by_cases last : blank next = true
        · rw [ih]
          simp [last]
        · -- The word goes on, so there is a first word that it is glued to.
          have solid : blank next = false := by simpa using last
          obtain ⟨word, words, same⟩ :=
            List.exists_cons_of_ne_nil (wordsBy_cons_ne_nil more solid)
          rw [ih]
          simp [solid, same, glue]

theorem wordsBy_solid {word : List Item} (nonempty : word ≠ [])
    (solid : ∀ item ∈ word, blank item = false) : wordsBy blank word = [word] := by
  induction word with
  | nil => exact absurd rfl nonempty
  | cons item rest ih =>
    have here := solid item (by simp)
    rw [wordsBy, if_neg (by simp [here])]
    cases rest with
    | nil => simp [wordsBy]
    | cons next more =>
      have there := solid next (by simp)
      rw [ih (List.cons_ne_nil _ _) fun other member => solid other (by simp [member])]
      simp [there, glue]

/-- Blanks before the first word hold no word. -/
theorem wordsBy_blanks_append {front : List Item} (blanks : ∀ item ∈ front, blank item = true)
    (rest : List Item) : wordsBy blank (front ++ rest) = wordsBy blank rest := by
  induction front with
  | nil => rfl
  | cons item front ih =>
    rw [List.cons_append, wordsBy, if_pos (blanks item (by simp))]
    exact ih fun other member => blanks other (by simp [member])

theorem wordsBy_blanks {items : List Item} (blanks : ∀ item ∈ items, blank item = true) :
    wordsBy blank items = [] := by
  have all := wordsBy_blanks_append blanks []
  rwa [List.append_nil] at all

theorem wordsBy_append_blanks {back : List Item} (blanks : ∀ item ∈ back, blank item = true)
    (items : List Item) : wordsBy blank (items ++ back) = wordsBy blank items := by
  cases back with
  | nil => rw [List.append_nil]
  | cons item back =>
    rw [List.forall_mem_cons] at blanks
    rw [wordsBy_append_cons blanks.1, wordsBy_blanks blanks.2, List.append_nil]

/-- Trimming loses no word. -/
theorem wordsBy_trim {pad : Item → Bool} (pads : ∀ item, pad item = true → blank item = true)
    (items : List Item) : wordsBy blank (trim pad items) = wordsBy blank items := by
  obtain ⟨tail, parts, blanks⟩ := trimEnd_append_blanks pad (items.dropWhile pad)
  have front : ∀ item ∈ items.takeWhile pad, blank item = true := fun item member =>
    pads item (List.all_eq_true.mp List.all_takeWhile item member)
  calc wordsBy blank (trim pad items)
      = wordsBy blank (trim pad items ++ tail) :=
        (wordsBy_append_blanks (fun item member => pads item (blanks item member)) _).symm
    _ = wordsBy blank (items.takeWhile pad ++ items.dropWhile pad) := by
        rw [trim, ← parts, wordsBy_blanks_append front]
    _ = wordsBy blank items := by rw [List.takeWhile_append_dropWhile]

/-- The words hold all that is not blank. -/
theorem wordsBy_flatten (items : List Item) :
    (wordsBy blank items).flatten = items.filter fun item => !blank item := by
  induction items with
  | nil => rfl
  | cons item rest ih =>
    rw [wordsBy, List.filter_cons, ← ih]
    cases blank item with
    | true => rfl
    | false =>
      simp only [Bool.false_eq_true, if_false, Bool.not_false, if_true]
      split
      · rfl
      · cases wordsBy blank rest <;> rfl

theorem wordsBy_eq_nil_iff {items : List Item} :
    wordsBy blank items = [] ↔ ∀ item ∈ items, blank item = true := by
  refine ⟨fun none item member => ?_, wordsBy_blanks⟩
  have all := @wordsBy_flatten Item blank items
  rw [none, List.flatten_nil] at all
  simpa using List.filter_eq_nil_iff.mp all.symm item member

/-- Trimming leaves nothing only of blanks. -/
theorem trim_eq_nil_iff {items : List Item} :
    trim blank items = [] ↔ ∀ item ∈ items, blank item = true := by
  rw [← wordsBy_eq_nil_iff, ← wordsBy_trim (fun _ blanks => blanks) items]
  refine ⟨fun none => by rw [none, wordsBy], fun none => ?_⟩
  rw [wordsBy_trim (fun _ blanks => blanks), wordsBy_eq_nil_iff] at none
  rw [trim, List.dropWhile_eq_nil_iff.mpr none, trimEnd]
  rfl

/-! ### Trimming -/

/-- What is left by trimming does not end with a blank. -/
theorem not_blank_of_getLast?_trimEnd {items : List Item} {item : Item}
    (last : (trimEnd blank items).getLast? = some item) : blank item = false := by
  have first := List.head?_dropWhile_not blank items.reverse
  rw [trimEnd, List.getLast?_reverse] at last
  rwa [last] at first

/-- Trimming stops at an item that is not blank. -/
theorem trimEnd_append_cons {item : Item} (solid : blank item = false) (front rest : List Item) :
    trimEnd blank (front ++ item :: rest) = front ++ item :: trimEnd blank rest := by
  rw [trimEnd, List.reverse_append, List.reverse_cons, List.append_assoc, List.dropWhile_append]
  split
  next gone => simp [trimEnd, solid, List.isEmpty_iff.mp gone]
  next => simp [trimEnd]

theorem trimEnd_blanks {items : List Item} (blanks : ∀ item ∈ items, blank item = true) :
    trimEnd blank items = [] := by
  rw [trimEnd, List.dropWhile_eq_nil_iff.mpr (by simpa using blanks), List.reverse_nil]

/-- Trimming goes no further than an item that is not blank. -/
theorem trimEnd_append_solid {rest : List Item} (solid : ∃ item ∈ rest, blank item = false)
    (front : List Item) : trimEnd blank (front ++ rest) = front ++ trimEnd blank rest := by
  obtain ⟨item, member, solid⟩ := solid
  obtain ⟨before, after, rfl⟩ := List.append_of_mem member
  rw [← List.append_assoc, trimEnd_append_cons solid, trimEnd_append_cons solid,
    List.append_assoc]

theorem dropWhile_append_solid {first : List Item} (solid : ∃ item ∈ first, blank item = false)
    (rest : List Item) : (first ++ rest).dropWhile blank = first.dropWhile blank ++ rest := by
  rw [List.dropWhile_append, if_neg]
  obtain ⟨item, member, solid⟩ := solid
  intro gone
  rw [List.dropWhile_eq_nil_iff.mp (List.isEmpty_iff.mp gone) item member] at solid
  cases solid

theorem mem_of_mem_trimEnd {items : List Item} {item : Item} (member : item ∈ trimEnd blank items) :
    item ∈ items := by
  obtain ⟨tail, parts, _⟩ := trimEnd_append_blanks blank items
  rw [parts]
  exact List.mem_append_left _ member

theorem mem_of_mem_trim {items : List Item} {item : Item} (member : item ∈ trim blank items) :
    item ∈ items :=
  (List.dropWhile_sublist _).subset (mem_of_mem_trimEnd member)

end SchemaDoc.Text
