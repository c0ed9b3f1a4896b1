/-!
# Blank characters and the words between them

Comment text is cut into words at blanks. Text knows the blanks of Unicode; bytes that need not
be text know only the six ASCII ones. Trimming and cutting are stated once, for any notion of
blank, and are pinned by two facts: what is trimmed away is blank, and a word holds no blank.
-/
namespace SchemaDoc.Text

/-- The white space of Unicode text, with the information separators `U+001C` to `U+001F`. -/
def isBlank (char : Char) : Bool :=
  let code := char.toNat
  (0x09 ≤ code && code ≤ 0x0D) || (0x1C ≤ code && code ≤ 0x20) || code == 0x85 || code == 0xA0 ||
    code == 0x1680 || (0x2000 ≤ code && code ≤ 0x200A) || code == 0x2028 || code == 0x2029 ||
    code == 0x202F || code == 0x205F || code == 0x3000

/-- The white space of ASCII: tab, the four line and page breaks, and space. -/
def isBlankByte (byte : UInt8) : Bool :=
  (0x09 ≤ byte && byte ≤ 0x0D) || byte == 0x20

section Trimming

variable {Item : Type} (blank : Item → Bool)

/-- Drop the blanks at the end. -/
def trimEnd (items : List Item) : List Item :=
  (items.reverse.dropWhile blank).reverse

/-- Drop the blanks at both ends. -/
def trim (items : List Item) : List Item :=
  trimEnd blank (items.dropWhile blank)

/-- Put an item in front of the first word. -/
def glue (item : Item) : List (List Item) → List (List Item)
  | [] => [[item]]
  | first :: more => (item :: first) :: more

/-- The maximal runs without a blank, in order. -/
def wordsBy : List Item → List (List Item)
  | [] => []
  | item :: rest =>
    if blank item then wordsBy rest
    else if rest.head?.all blank then [item] :: wordsBy rest
    else glue item (wordsBy rest)

/-- Trimming takes only blanks. -/
theorem trimEnd_append_blanks (items : List Item) :
    ∃ tail, items = trimEnd blank items ++ tail ∧ ∀ item ∈ tail, blank item = true := by
  refine ⟨(items.reverse.takeWhile blank).reverse, ?_, ?_⟩
  · rw [trimEnd, ← List.reverse_append, List.takeWhile_append_dropWhile, List.reverse_reverse]
  · intro item member
    exact List.all_eq_true.mp List.all_takeWhile item (List.mem_reverse.mp member)

theorem wordsBy_mem {items word : List Item} (member : word ∈ wordsBy blank items) :
    word ≠ [] ∧ ∀ item ∈ word, blank item = false := by
  induction items generalizing word with
  | nil => simp [wordsBy] at member
  | cons item rest ih =>
    rw [wordsBy] at member
    split at member
    · exact ih member
    next solid =>
      have clear : blank item = false := by simpa using solid
      split at member
      · rcases List.mem_cons.mp member with rfl | inside
        · simp [clear]
        · exact ih inside
      · cases found : wordsBy blank rest with
        | nil => simp_all [glue]
        | cons first more =>
          rw [found, glue] at member
          rcases List.mem_cons.mp member with rfl | inside
          · refine ⟨by simp, fun other place => ?_⟩
            rcases List.mem_cons.mp place with rfl | place
            · exact clear
            · exact (@ih first (by simp [found])).2 other place
          · exact ih (by simp [found, inside])

end Trimming

/-- The words of a text. -/
def words (text : List Char) : List (List Char) :=
  wordsBy isBlank text

/-- A text with the blanks at its two ends removed. -/
def strip (text : List Char) : List Char :=
  trim isBlank text

end SchemaDoc.Text
