import Mathlib.Data.List.DropRight
import SchemaDoc.Comment.Paragraph
import SchemaDoc.Proofs.Comment.Packing

/-!
# Joining lines

A text is told by its lines. It is cut into paragraphs at the runs of blank lines, and joining the
lines of a paragraph replaces each line break, with the padding beside it, by one space. So lines
that begin and end with words are joined to those words with single spaces between them.

Both readers go through a text one character after the other. What they have read of a line is
their state at the next line break, so each of them is followed by an induction over the lines.
-/
namespace SchemaDoc.Comment

open Text (isBlank strip trim trimEnd words wordsBy)

/-- A text that neither begins nor ends with a blank. -/
structure IsTight (text : List Char) : Prop where
  begins : ∀ char ∈ text.head?, isBlank char = false
  ends : ∀ char ∈ text.getLast?, isBlank char = false

/-- A text that may stand on a line of its own between others. -/
structure IsLine (text : List Char) : Prop where
  filled : text ≠ []
  tight : IsTight text
  unbroken : '\n' ∉ text

/-- The text begins with something else than a blank. -/
def Opens (text : List Char) : Prop :=
  ∃ first rest, text = first :: rest ∧ isBlank first = false

/-- The text ends with something else than a blank. -/
def Closes (text : List Char) : Prop :=
  ∃ front last, text = front ++ [last] ∧ isBlank last = false

/-- A line is blank when it is empty or has blanks only. -/
def isBlankLine (line : List Char) : Bool :=
  line.all isBlank

/-- Lines below each other. -/
def stack (lines : List (List Char)) : List Char :=
  List.intercalate ['\n'] lines

/-- Lines of which the first begins with a word and the last ends with one. -/
structure IsTrimmed (lines : List (List Char)) : Prop where
  filled : lines ≠ []
  opens : ∀ line ∈ lines.head?, Opens line
  closes : ∀ line ∈ lines.getLast?, Closes line
  unbroken : ∀ line ∈ lines, '\n' ∉ line

theorem IsPlain.isLine {text : List Char} (plain : IsPlain text) (filled : text ≠ []) :
    IsLine text :=
  ⟨filled, ⟨plain.begins, plain.ends⟩, plain.newline_notMem⟩

theorem isBlank_of_isLinePad {char : Char} (pad : isLinePad char = true) :
    isBlank char = true := by
  simp only [isLinePad, Bool.or_eq_true, beq_iff_eq] at pad
  rcases pad with (((rfl | rfl) | rfl) | rfl) | rfl <;> decide

theorem not_isLinePad {char : Char} (solid : isBlank char = false) : isLinePad char = false := by
  by_contra padding
  rw [isBlank_of_isLinePad (by simpa using padding)] at solid
  cases solid

/-! ### Texts that begin and end with words -/

section Ends

variable {text : List Char} {pad : Char → Bool}

theorem Opens.append (opens : Opens text) (more : List Char) : Opens (text ++ more) := by
  obtain ⟨first, rest, rfl, solid⟩ := opens
  exact ⟨first, rest ++ more, rfl, solid⟩

theorem Closes.append (closes : Closes text) (front : List Char) : Closes (front ++ text) := by
  obtain ⟨before, last, rfl, solid⟩ := closes
  exact ⟨front ++ before, last, (List.append_assoc _ _ _).symm, solid⟩

theorem isTight_iff : text ≠ [] ∧ IsTight text ↔ Opens text ∧ Closes text := by
  constructor
  · rintro ⟨filled, tight⟩
    obtain ⟨first, rest, same⟩ := List.exists_cons_of_ne_nil filled
    obtain ⟨front, last, same'⟩ := (List.eq_nil_or_concat' text).resolve_left filled
    exact ⟨⟨first, rest, same, tight.begins first (by simp [same])⟩,
      ⟨front, last, same', tight.ends last (by simp [same'])⟩⟩
  · rintro ⟨⟨first, rest, rfl, solid⟩, front, last, same, solid'⟩
    refine ⟨List.cons_ne_nil _ _, by simpa using solid, ?_⟩
    rw [same]
    simpa using solid'

/-- Trimming a text that begins with a word takes nothing before it. -/
theorem Opens.dropWhile_eq (opens : Opens text)
    (pads : ∀ char, isBlank char = false → pad char = false) : text.dropWhile pad = text := by
  obtain ⟨first, rest, rfl, solid⟩ := opens
  exact List.dropWhile_cons_of_neg (by simp [pads first solid])

/-- Trimming a text that ends with a word takes nothing behind it. -/
theorem Closes.trimEnd_eq (closes : Closes text)
    (pads : ∀ char, isBlank char = false → pad char = false) :
    Text.trimEnd pad text = text := by
  obtain ⟨front, last, rfl, solid⟩ := closes
  exact Text.trimEnd_append_cons (pads last solid) front []

theorem Opens.trimEnd (opens : Opens text)
    (pads : ∀ char, isBlank char = false → pad char = false) : Opens (Text.trimEnd pad text) := by
  obtain ⟨first, rest, rfl, solid⟩ := opens
  exact ⟨first, Text.trimEnd pad rest, Text.trimEnd_append_cons (pads first solid) [] rest, solid⟩

theorem Closes.dropWhile (closes : Closes text)
    (pads : ∀ char, isBlank char = false → pad char = false) : Closes (text.dropWhile pad) := by
  obtain ⟨front, last, rfl, solid⟩ := closes
  have kept : (front ++ [last]).dropWhile pad = front.dropWhile pad ++ [last] := by
    rw [List.dropWhile_append]
    split
    next gone => simp [List.isEmpty_iff.mp gone, pads last solid]
    next => rfl
  exact ⟨front.dropWhile pad, last, kept, solid⟩

theorem IsLine.opens (isLine : IsLine text) : Opens text :=
  (isTight_iff.mp ⟨isLine.filled, isLine.tight⟩).1

theorem IsLine.closes (isLine : IsLine text) : Closes text :=
  (isTight_iff.mp ⟨isLine.filled, isLine.tight⟩).2

/-- Stripping takes the blanks around a text. -/
theorem strip_pad (opens : Opens text) (closes : Closes text) {front back : List Char}
    (before : ∀ char ∈ front, isBlank char = true) (after : ∀ char ∈ back, isBlank char = true) :
    strip (front ++ (text ++ back)) = text := by
  obtain ⟨body, last, rfl, solid⟩ := closes
  rw [strip, trim, List.dropWhile_append_of_pos before,
    (opens.append back).dropWhile_eq fun _ solid => solid, List.append_assoc, List.singleton_append,
    Text.trimEnd_append_cons solid, Text.trimEnd_blanks after]

end Ends

/-! ### Lines that are not blank -/

section Solid

variable {line : List Char}

theorem isBlankLine_eq_false (line : List Char) :
    isBlankLine line = false ↔ ∃ char ∈ line, isBlank char = false := by
  simp [isBlankLine]

theorem Opens.solid {text : List Char} (opens : Opens text) : isBlankLine text = false := by
  obtain ⟨first, rest, rfl, solid⟩ := opens
  exact (isBlankLine_eq_false _).mpr ⟨first, by simp, solid⟩

theorem Closes.solid {text : List Char} (closes : Closes text) : isBlankLine text = false := by
  obtain ⟨front, last, rfl, solid⟩ := closes
  exact (isBlankLine_eq_false _).mpr ⟨last, by simp, solid⟩

theorem opens_dropWhile (solid : isBlankLine line = false) : Opens (line.dropWhile isBlank) := by
  obtain ⟨char, member, shown⟩ := (isBlankLine_eq_false line).mp solid
  cases left : line.dropWhile isBlank with
  | nil =>
    rw [List.dropWhile_eq_nil_iff.mp left char member] at shown
    cases shown
  | cons first rest =>
    have begun := List.head?_dropWhile_not isBlank line
    rw [left] at begun
    exact ⟨first, rest, rfl, begun⟩

theorem closes_trimEnd (solid : isBlankLine line = false) : Closes (trimEnd isBlank line) := by
  have reversed : isBlankLine line.reverse = false := by simpa [isBlankLine] using solid
  obtain ⟨last, rest, same, shown⟩ := opens_dropWhile reversed
  exact ⟨rest.reverse, last, by simp [trimEnd, same], shown⟩

end Solid

/-! ### Stacks of lines -/

theorem intercalate_cons (parting first : List Char) (rest : List (List Char)) :
    List.intercalate parting (first :: rest) = first ++ rest.flatMap (parting ++ ·) := by
  induction rest generalizing first with
  | nil => simp
  | cons next more ih =>
    rw [List.intercalate_cons_cons, ih next]
    simp

theorem intercalate_concat (parting last : List Char) (front : List (List Char)) :
    List.intercalate parting (front ++ [last]) = front.flatMap (· ++ parting) ++ last := by
  induction front with
  | nil => simp
  | cons first rest ih =>
    rw [List.cons_append, List.intercalate_cons_of_ne_nil (by simp), ih]
    simp

theorem mem_of_mem_intercalate {parting : List Char} {texts : List (List Char)} {char : Char}
    (member : char ∈ List.intercalate parting texts) :
    char ∈ parting ∨ ∃ text ∈ texts, char ∈ text := by
  cases texts with
  | nil => simp at member
  | cons first rest =>
    rw [intercalate_cons, List.mem_append, List.mem_flatMap] at member
    rcases member with inside | ⟨text, behind, inside⟩
    · exact .inr ⟨first, by simp, inside⟩
    · rcases List.mem_append.mp inside with parts | inside
      · exact .inl parts
      · exact .inr ⟨text, by simp [behind], inside⟩

theorem words_intercalate {blank : Char} (parts : isBlank blank = true) {pad : List Char}
    (pads : ∀ char ∈ pad, isBlank char = true) (texts : List (List Char)) :
    words (List.intercalate (blank :: pad) texts) = texts.flatMap words := by
  induction texts with
  | nil => rfl
  | cons text rest ih =>
    cases rest with
    | nil => simp
    | cons next more =>
      have parted := Text.wordsBy_append_cons parts text
        (pad ++ List.intercalate (blank :: pad) (next :: more))
      rw [Text.wordsBy_blanks_append pads] at parted
      rw [List.intercalate_cons_cons, List.flatMap_cons, ← ih, List.append_assoc]
      exact parted

theorem words_stack (texts : List (List Char)) : words (stack texts) = texts.flatMap words :=
  words_intercalate (by decide : isBlank '\n' = true) (List.forall_mem_nil _) texts

theorem opens_intercalate {parting first : List Char} (opens : Opens first)
    (rest : List (List Char)) : Opens (List.intercalate parting (first :: rest)) := by
  rw [intercalate_cons]
  exact opens.append _

theorem closes_intercalate {parting last : List Char} (closes : Closes last)
    (front : List (List Char)) : Closes (List.intercalate parting (front ++ [last])) := by
  rw [intercalate_concat]
  exact closes.append _

theorem stack_cons_cons (line next : List Char) (rest : List (List Char)) :
    stack (line :: next :: rest) = line ++ '\n' :: stack (next :: rest) := by
  simp [stack, List.intercalate_cons_cons]

section Trimmed

variable {lines : List (List Char)}

theorem IsTrimmed.stack_opens (trimmed : IsTrimmed lines) : Opens (stack lines) := by
  obtain ⟨first, rest, rfl⟩ := List.exists_cons_of_ne_nil trimmed.filled
  exact opens_intercalate (trimmed.opens first rfl) rest

theorem IsTrimmed.stack_closes (trimmed : IsTrimmed lines) : Closes (stack lines) := by
  obtain ⟨front, last, rfl⟩ := (List.eq_nil_or_concat' lines).resolve_left trimmed.filled
  exact closes_intercalate (trimmed.closes last (by simp)) front

end Trimmed

theorem newline_notMem_of_mem_splitOn {text line : List Char} (member : line ∈ text.splitOn '\n') :
    '\n' ∉ line := by
  induction text generalizing line with
  | nil =>
    rw [List.splitOn_nil, List.mem_singleton] at member
    simp [member]
  | cons char rest ih =>
    rw [List.splitOn_cons_eq_if_modifyHead] at member
    split at member
    · rcases List.mem_cons.mp member with rfl | later
      · exact List.not_mem_nil
      · exact ih later
    next other =>
      obtain ⟨first, more, parts⟩ := List.exists_cons_of_ne_nil (List.splitOn_ne_nil '\n' rest)
      rw [parts, List.modifyHead_cons] at member
      rcases List.mem_cons.mp member with rfl | later
      · have unbroken : '\n' ∉ first := ih (by simp [parts])
        simpa [unbroken] using Ne.symm (by simpa using other)
      · exact ih (by simp [parts, later])

theorem opens_of_stack {line : List Char} {rest : List (List Char)}
    (opens : Opens (stack (line :: rest))) : Opens line := by
  obtain ⟨first, more, same, solid⟩ := opens
  rw [stack, intercalate_cons] at same
  cases line with
  | nil =>
    -- An empty first line would leave a line break at the start.
    cases rest with
    | nil => simp at same
    | cons next rest =>
      rw [List.nil_append, List.flatMap_cons, List.append_assoc, List.singleton_append] at same
      rw [← (List.cons.inj same).1] at solid
      cases solid
  | cons char line =>
    rw [List.cons_append] at same
    rw [← (List.cons.inj same).1] at solid
    exact ⟨char, line, rfl, solid⟩

theorem closes_of_stack {front : List (List Char)} {line : List Char}
    (closes : Closes (stack (front ++ [line]))) : Closes line := by
  obtain ⟨more, last, same, solid⟩ := closes
  rw [stack, intercalate_concat] at same
  rcases List.eq_nil_or_concat' line with rfl | ⟨body, char, rfl⟩
  · -- An empty last line would leave a line break at the end.
    rcases List.eq_nil_or_concat' front with rfl | ⟨before, other, rfl⟩
    · simp at same
    · simp only [List.append_nil, List.flatMap_append, List.flatMap_singleton] at same
      rw [← List.append_assoc] at same
      rw [← List.cons.inj (List.append_inj_right' same rfl) |>.1] at solid
      cases solid
  · rw [← List.append_assoc] at same
    rw [← List.cons.inj (List.append_inj_right' same rfl) |>.1] at solid
    exact ⟨body, char, rfl, solid⟩

/-- The lines of a text that begins and ends with words. -/
theorem isTrimmed_splitOn {text : List Char} (opens : Opens text) (closes : Closes text) :
    IsTrimmed (text.splitOn '\n') := by
  have whole : stack (text.splitOn '\n') = text := List.intercalate_splitOn '\n'
  refine ⟨List.splitOn_ne_nil _ _, fun line begins => ?_, fun line ends => ?_,
    fun line => newline_notMem_of_mem_splitOn⟩
  · obtain ⟨rest, parts⟩ := List.head?_eq_some_iff.mp begins
    rw [← whole, parts] at opens
    exact opens_of_stack opens
  · obtain ⟨front, parts⟩ := List.getLast?_eq_some_iff.mp ends
    rw [← whole, parts] at closes
    exact closes_of_stack closes

/-! ### Line breaks -/

theorem joinBreaks_skip (text : List Char) :
    joinBreaks.skip text = joinBreaks.go [] (text.dropWhile isLinePad) := by
  induction text with
  | nil => rfl
  | cons char rest ih =>
    rw [joinBreaks.skip]
    split
    next padding => rw [List.dropWhile_cons_of_pos padding, ih]
    next solid =>
      rw [List.dropWhile_cons_of_neg solid, joinBreaks.go, if_neg solid]
      rfl

theorem joinBreaks_go_unbroken {line : List Char} (unbroken : '\n' ∉ line) (pad : List Char) :
    joinBreaks.go pad line = pad.reverse ++ line := by
  induction line generalizing pad with
  | nil => simp [joinBreaks.go]
  | cons char rest ih =>
    simp only [List.mem_cons, not_or] at unbroken
    rw [joinBreaks.go, if_neg (by simpa using Ne.symm unbroken.1), ih unbroken.2, ih unbroken.2]
    split <;> simp

/-- At a line break the padding before it goes. -/
theorem joinBreaks_go_newline {line pad : List Char} (unbroken : '\n' ∉ line)
    (padding : ∀ char ∈ pad, isLinePad char = true) (rest : List Char) :
    joinBreaks.go pad (line ++ '\n' :: rest) =
      trimEnd isLinePad (pad.reverse ++ line) ++ ' ' :: joinBreaks.skip rest := by
  induction line generalizing pad with
  | nil =>
    rw [List.nil_append, joinBreaks.go, if_pos (beq_self_eq_true _), List.append_nil, trimEnd,
      List.reverse_reverse, List.dropWhile_eq_nil_iff.mpr padding]
    rfl
  | cons char line ih =>
    simp only [List.mem_cons, not_or] at unbroken
    rw [List.cons_append, joinBreaks.go, if_neg (by simpa using Ne.symm unbroken.1)]
    split
    next more =>
      rw [ih unbroken.2 (List.forall_mem_cons.mpr ⟨more, padding⟩), List.reverse_cons,
        List.append_assoc]
      rfl
    next solid =>
      rw [ih unbroken.2 (by simp), Text.trimEnd_append_cons (by simpa using solid)]
      simp

/-- Behind a line break lines are joined without their padding. -/
theorem joinBreaks_skip_stack {lines : List (List Char)} (nonempty : lines ≠ [])
    (closes : ∀ line ∈ lines.getLast?, Closes line) (unbroken : ∀ line ∈ lines, '\n' ∉ line) :
    joinBreaks.skip (stack lines) = joinWords (lines.map (trim isLinePad)) := by
  induction lines with
  | nil => exact absurd rfl nonempty
  | cons line rest ih =>
    have first : '\n' ∉ line.dropWhile isLinePad := fun member =>
      unbroken line (by simp) ((List.dropWhile_sublist _).subset member)
    cases rest with
    | nil =>
      have ends := (closes line rfl).dropWhile fun _ => not_isLinePad
      rw [stack, List.intercalate_singleton, joinBreaks_skip, joinBreaks_go_unbroken first,
        List.map_singleton, joinWords_singleton, trim, ends.trimEnd_eq fun _ => not_isLinePad]
      rfl
    | cons next more =>
      have later := ih (List.cons_ne_nil _ _) (by simpa using closes) fun other member =>
        unbroken other (List.mem_cons_of_mem _ member)
      have newline : ('\n' :: stack (next :: more)).dropWhile isLinePad =
          '\n' :: stack (next :: more) := rfl
      have front : (line ++ '\n' :: stack (next :: more)).dropWhile isLinePad =
          line.dropWhile isLinePad ++ '\n' :: stack (next :: more) := by
        rw [List.dropWhile_append]
        split
        next gone => rw [List.isEmpty_iff.mp gone, newline, List.nil_append]
        next => rfl
      rw [stack_cons_cons, joinBreaks_skip, front, joinBreaks_go_newline first (by simp), later]
      exact (joinWords_cons_cons _ _ _).symm

theorem joinBreaks_stack {lines : List (List Char)} (trimmed : IsTrimmed lines) :
    joinBreaks (stack lines) = joinWords (lines.map (trim isLinePad)) := by
  rw [← joinBreaks_skip_stack trimmed.filled trimmed.closes trimmed.unbroken, joinBreaks_skip,
    trimmed.stack_opens.dropWhile_eq fun _ => not_isLinePad, joinBreaks]

/-! ### Paragraphs -/

theorem afterBlankLines_blank {line : List Char} (blank : isBlankLine line = true)
    (rest : List Char) :
    afterBlankLines (line ++ '\n' :: rest) = some ((afterBlankLines rest).getD rest) := by
  induction line with
  | nil =>
    have newline : isBlank '\n' = true := rfl
    rw [List.nil_append, afterBlankLines, if_pos newline]
    cases afterBlankLines rest <;> rfl
  | cons char line ih =>
    rw [isBlankLine, List.all_cons, Bool.and_eq_true] at blank
    rw [List.cons_append, afterBlankLines, if_pos blank.1, ih blank.2]

theorem afterBlankLines_solid {line : List Char} (solid : isBlankLine line = false)
    (unbroken : '\n' ∉ line) (rest : List Char) : afterBlankLines (line ++ rest) = none := by
  induction line with
  | nil => cases solid
  | cons char line ih =>
    simp only [List.mem_cons, not_or] at unbroken
    rw [List.cons_append, afterBlankLines]
    split
    next blank =>
      rw [isBlankLine, List.all_cons, blank, Bool.true_and] at solid
      rw [ih solid unbroken.2]
      simp [Ne.symm unbroken.1]
    next => rfl

theorem paragraphs_go_line {line : List Char} (unbroken : '\n' ∉ line) (read rest : List Char) :
    paragraphs.go read (line ++ rest) = paragraphs.go (line.reverse ++ read) rest := by
  induction line generalizing read with
  | nil => rfl
  | cons char line ih =>
    simp only [List.mem_cons, not_or] at unbroken
    rw [List.cons_append, paragraphs.go, if_neg (by simpa using Ne.symm unbroken.1),
      ih unbroken.2, List.reverse_cons, List.append_assoc]
    rfl

/-- A line break that no blank line follows stays in its paragraph. -/
theorem paragraphs_go_break {rest : List Char} (text : afterBlankLines rest = none)
    (read : List Char) : paragraphs.go read ('\n' :: rest) = paragraphs.go ('\n' :: read) rest := by
  rw [paragraphs.go, if_pos (beq_self_eq_true _)]
  split
  next found =>
    rw [text] at found
    cases found
  next => rfl

/-- A line break that blank lines follow ends its paragraph. -/
theorem paragraphs_go_blank {rest after : List Char} (found : afterBlankLines rest = some after)
    (read : List Char) :
    paragraphs.go read ('\n' :: rest) = read.reverse :: paragraphs.go [] after := by
  rw [paragraphs.go, if_pos (beq_self_eq_true _)]
  split
  next other same =>
    rw [found] at same
    cases same
    rfl
  next none =>
    rw [found] at none
    cases none

/-- How lines are cut that begin with one that is not blank: the open paragraph goes on with
them. -/
structure ReadsOn (lines : List (List Char)) : Prop where
  inside : afterBlankLines (stack lines) = none
  parts : ∀ read, paragraphs.go read (stack lines) =
    ((wordsBy isBlankLine lines).map stack).modifyHead (read.reverse ++ ·)

/-- How lines are cut that begin with a blank one: a paragraph opens behind the blank lines. -/
def PassesOver (lines : List (List Char)) : Prop :=
  ∃ text, afterBlankLines (stack lines) = some text ∧
    paragraphs.go [] text = (wordsBy isBlankLine lines).map stack

section Cutting

variable {line next : List Char} {more : List (List Char)}

theorem readsOn_singleton (solid : isBlankLine line = false) (unbroken : '\n' ∉ line) :
    ReadsOn [line] := by
  have alone : stack [line] = line ++ [] := by simp [stack]
  refine ⟨by rw [alone, afterBlankLines_solid solid unbroken], fun read => ?_⟩
  rw [alone, paragraphs_go_line unbroken]
  simp [paragraphs.go, wordsBy, solid, stack]

/-- One more line of the first paragraph. -/
theorem ReadsOn.solid_cons (onward : ReadsOn (next :: more)) (follows : isBlankLine next = false)
    (solid : isBlankLine line = false) (unbroken : '\n' ∉ line) :
    ReadsOn (line :: next :: more) := by
  obtain ⟨run, runs, parts⟩ := List.exists_cons_of_ne_nil (Text.wordsBy_cons_ne_nil more follows)
  have member : run ∈ wordsBy isBlankLine (next :: more) := by simp [parts]
  have filled : run ≠ [] := (Text.wordsBy_mem isBlankLine member).1
  obtain ⟨first, others, rfl⟩ := List.exists_cons_of_ne_nil filled
  refine ⟨?_, fun read => ?_⟩
  · rw [stack_cons_cons, afterBlankLines_solid solid unbroken]
  · have longer :
        wordsBy isBlankLine (line :: next :: more) = (line :: first :: others) :: runs := by
      rw [wordsBy, if_neg (by simp [solid]), parts]
      simp [follows, Text.glue]
    rw [stack_cons_cons, paragraphs_go_line unbroken, paragraphs_go_break onward.inside,
      onward.parts, parts, longer]
    simp [stack_cons_cons]

/-- Blank lines close the paragraph that this line opens. -/
theorem PassesOver.solid_cons (onward : PassesOver (next :: more))
    (follows : isBlankLine next = true) (solid : isBlankLine line = false)
    (unbroken : '\n' ∉ line) : ReadsOn (line :: next :: more) := by
  obtain ⟨text, found, parts⟩ := onward
  refine ⟨?_, fun read => ?_⟩
  · rw [stack_cons_cons, afterBlankLines_solid solid unbroken]
  · have apart : wordsBy isBlankLine (line :: next :: more) =
        [line] :: wordsBy isBlankLine (next :: more) := by
      rw [wordsBy, if_neg (by simp [solid])]
      simp [follows]
    have alone : stack [line] = line := List.intercalate_singleton
    rw [stack_cons_cons, paragraphs_go_line unbroken, paragraphs_go_blank found, parts, apart,
      List.map_cons, alone]
    simp

theorem ReadsOn.blank_cons (onward : ReadsOn (next :: more)) (blank : isBlankLine line = true) :
    PassesOver (line :: next :: more) := by
  refine ⟨stack (next :: more), ?_, ?_⟩
  · rw [stack_cons_cons, afterBlankLines_blank blank, onward.inside]
    rfl
  · have skipped :
        wordsBy isBlankLine (line :: next :: more) = wordsBy isBlankLine (next :: more) :=
      if_pos blank
    rw [onward.parts, skipped]
    exact congrFun List.modifyHead_id _

theorem PassesOver.blank_cons (onward : PassesOver (next :: more))
    (blank : isBlankLine line = true) : PassesOver (line :: next :: more) := by
  obtain ⟨text, found, parts⟩ := onward
  have skipped :
      wordsBy isBlankLine (line :: next :: more) = wordsBy isBlankLine (next :: more) :=
    if_pos blank
  refine ⟨text, ?_, by rw [parts, skipped]⟩
  rw [stack_cons_cons, afterBlankLines_blank blank, found]
  rfl

/-- Cutting lines that end with one that is not blank. -/
theorem stack_cut {line : List Char} {rest : List (List Char)}
    (ends : ∀ last ∈ (line :: rest).getLast?, isBlankLine last = false)
    (unbroken : ∀ other ∈ line :: rest, '\n' ∉ other) :
    if isBlankLine line then PassesOver (line :: rest) else ReadsOn (line :: rest) := by
  have whole := unbroken line (by simp)
  induction rest generalizing line with
  | nil =>
    have solid := ends line rfl
    rw [if_neg (by simp [solid])]
    exact readsOn_singleton solid whole
  | cons next more ih =>
    have others := fun other member => unbroken other (List.mem_cons_of_mem line member)
    have onward := ih (by simpa using ends) others (others next (by simp))
    split at onward <;> split
    next follows blank => exact onward.blank_cons blank
    next follows solid => exact onward.solid_cons follows (by simpa using solid) whole
    next follows blank => exact onward.blank_cons blank
    next follows solid =>
      exact onward.solid_cons (by simpa using follows) (by simpa using solid) whole

end Cutting

theorem paragraphs_stack {lines : List (List Char)} (trimmed : IsTrimmed lines) :
    paragraphs (stack lines) = (wordsBy isBlankLine lines).map stack := by
  obtain ⟨line, rest, rfl⟩ := List.exists_cons_of_ne_nil trimmed.filled
  have solid : isBlankLine line = false := (trimmed.opens line rfl).solid
  have onward := stack_cut (fun last ends => (trimmed.closes last ends).solid) trimmed.unbroken
  rw [if_neg (by simp [solid])] at onward
  rw [paragraphs, onward.parts]
  exact congrFun List.modifyHead_id _

/-- A text without a blank line is one paragraph, whatever blanks stand around it. -/
theorem joinLines_paragraph {lines : List (List Char)} (trimmed : IsTrimmed lines)
    (solid : ∀ line ∈ lines, isBlankLine line = false) {front back : List Char}
    (before : ∀ char ∈ front, isBlank char = true) (after : ∀ char ∈ back, isBlank char = true) :
    joinLines (front ++ (stack lines ++ back)) = joinWords (lines.map (trim isLinePad)) := by
  have itself := strip_pad trimmed.stack_opens trimmed.stack_closes (List.forall_mem_nil _)
    (List.forall_mem_nil _)
  rw [List.nil_append, List.append_nil] at itself
  rw [joinLines, strip_pad trimmed.stack_opens trimmed.stack_closes before after,
    paragraphs_stack trimmed, Text.wordsBy_solid trimmed.filled solid]
  simp [itself, joinBreaks_stack trimmed]

/-! ### Wrapped lines -/

/-- Lines below each other, each but the first behind a space. -/
def wrapLines (lines : List (List Char)) : List Char :=
  List.intercalate ['\n', ' '] lines

theorem wrapLines_cons_cons (line next : List Char) (rest : List (List Char)) :
    wrapLines (line :: next :: rest) = line ++ '\n' :: ' ' :: wrapLines (next :: rest) := by
  simp [wrapLines, List.intercalate_cons_cons]

theorem wrapLines_cons (line : List Char) (rest : List (List Char)) :
    wrapLines (line :: rest) = stack (line :: rest.map (' ' :: ·)) := by
  rw [wrapLines, intercalate_cons, stack, intercalate_cons, List.flatMap_map]
  rfl

section Wrapped

variable {lines : List (List Char)}

/-- Each line but the first behind a space. -/
theorem isTrimmed_spaced {line : List Char} {rest : List (List Char)}
    (isLine : ∀ other ∈ line :: rest, IsLine other) : IsTrimmed (line :: rest.map (' ' :: ·)) where
  filled := List.cons_ne_nil _ _
  opens := by simpa using (isLine line (by simp)).opens
  closes := by
    rcases List.eq_nil_or_concat' rest with rfl | ⟨front, last, rfl⟩
    · simpa using (isLine line (by simp)).closes
    · have ended := (isLine last (by simp)).closes.append [' ']
      simpa [List.getLast?_cons] using ended
  unbroken := by
    have unbroken := fun other member => (isLine other member).unbroken
    simpa using unbroken

theorem wrapLines_ends (nonempty : lines ≠ []) (isLine : ∀ line ∈ lines, IsLine line) :
    Opens (wrapLines lines) ∧ Closes (wrapLines lines) := by
  obtain ⟨line, rest, rfl⟩ := List.exists_cons_of_ne_nil nonempty
  have trimmed := isTrimmed_spaced isLine
  rw [wrapLines_cons]
  exact ⟨trimmed.stack_opens, trimmed.stack_closes⟩

theorem IsLine.trim_pad {line pad : List Char} (isLine : IsLine line)
    (pads : ∀ char ∈ pad, isLinePad char = true) : trim isLinePad (pad ++ line) = line := by
  rw [trim, List.dropWhile_append_of_pos pads, isLine.opens.dropWhile_eq fun _ => not_isLinePad,
    isLine.closes.trimEnd_eq fun _ => not_isLinePad]

/-- Lines that begin and end with words are joined by single spaces, whatever blanks stand before
the first and behind the last. -/
theorem joinLines_wrapLines (nonempty : lines ≠ []) (isLine : ∀ line ∈ lines, IsLine line)
    {front back : List Char} (before : ∀ char ∈ front, isBlank char = true)
    (after : ∀ char ∈ back, isBlank char = true) :
    joinLines (front ++ (wrapLines lines ++ back)) = joinWords lines := by
  obtain ⟨line, rest, rfl⟩ := List.exists_cons_of_ne_nil nonempty
  have first := isLine line (by simp)
  have others : ∀ text ∈ rest, IsLine text := fun text member => isLine text (by simp [member])
  have space : ∀ char ∈ [' '], isLinePad char = true := by simp [isLinePad]
  have solid : ∀ other ∈ line :: rest.map (' ' :: ·), isBlankLine other = false := by
    refine List.forall_mem_cons.mpr ⟨first.opens.solid, List.forall_mem_map.mpr ?_⟩
    exact fun text member => ((others text member).closes.append [' ']).solid
  have begun : trim isLinePad line = line := first.trim_pad (List.forall_mem_nil _)
  have unspaced : rest.map (fun text => trim isLinePad (' ' :: text)) = rest :=
    (List.map_congr_left fun text member => (others text member).trim_pad space).trans
      (List.map_id' rest)
  rw [wrapLines_cons, joinLines_paragraph (isTrimmed_spaced isLine) solid before after,
    List.map_cons, List.map_map, begun]
  exact congrArg (fun texts => joinWords (line :: texts)) unspaced

end Wrapped

end SchemaDoc.Comment
