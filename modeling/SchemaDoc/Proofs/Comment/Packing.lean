import SchemaDoc.Proofs.Comment.Layout

/-!
# Fewest lines

A comment is cut into lines that stay within the width or have one word only. Packing greedily
finds such a cut, and none has fewer lines: a line that is filled as far as it goes leaves the
fewest words for those below it.

What makes this an argument by induction is that packing behind a shorter open line never takes
more lines, and behind a longer one at most one more.
-/
namespace SchemaDoc.Comment

open Text (isBlank words)

/-- Words with one space between each two. -/
def joinWords (words : List (List Char)) : List Char :=
  List.intercalate [' '] words

/-- A line of words stays within the width together with the indentation and what is set aside, or
has one word only. -/
def Fits (indent : List Char) (line : List (List Char)) : Prop :=
  indent.length + markBudget + (joinWords line).length ≤ lineWidth ∨ line.length = 1

/-- Words are cut into lines that fit, one after the other. -/
structure Cuts (indent : List Char) (words : List (List Char))
    (lines : List (List (List Char))) : Prop where
  parts : lines.flatten = words
  fits : ∀ line ∈ lines, Fits indent line

variable {budget : Int} {indent : List Char}

/-! ### Words with spaces between them -/

@[simp] theorem joinWords_singleton (word : List Char) : joinWords [word] = word :=
  List.intercalate_singleton

theorem joinWords_cons_cons (word next : List Char) (rest : List (List Char)) :
    joinWords (word :: next :: rest) = word ++ ' ' :: joinWords (next :: rest) := by
  simp [joinWords, List.intercalate_cons_cons]

theorem joinWords_append {first second : List (List Char)} (one : first ≠ []) (two : second ≠ []) :
    joinWords (first ++ second) = joinWords first ++ ' ' :: joinWords second := by
  induction first with
  | nil => exact absurd rfl one
  | cons word rest ih =>
    cases rest with
    | nil =>
      obtain ⟨next, more, rfl⟩ := List.exists_cons_of_ne_nil two
      rw [joinWords_singleton]
      exact joinWords_cons_cons word next more
    | cons next more =>
      have later := ih (List.cons_ne_nil _ _)
      rw [List.cons_append] at later
      rw [List.cons_append, List.cons_append, joinWords_cons_cons, later, joinWords_cons_cons]
      simp

theorem joinWords_ne_nil {all : List (List Char)} (nonempty : all ≠ [])
    (solid : ∀ word ∈ all, word ≠ []) : joinWords all ≠ [] := by
  obtain ⟨word, rest, rfl⟩ := List.exists_cons_of_ne_nil nonempty
  have first := solid word (by simp)
  cases rest with
  | nil => simpa using first
  | cons next more => simp [joinWords_cons_cons]

/-- Joining lines joins all their words. -/
theorem joinWords_map_joinWords {lines : List (List (List Char))} (filled : [] ∉ lines) :
    joinWords (lines.map joinWords) = joinWords lines.flatten := by
  induction lines with
  | nil => rfl
  | cons line rest ih =>
    simp only [List.mem_cons, not_or] at filled
    have later := ih filled.2
    cases rest with
    | nil => simp
    | cons next more =>
      have behind : (next :: more).flatten ≠ [] := by
        have first : next ≠ [] := fun empty => filled.2 (by simp [empty])
        simp [first]
      rw [List.flatten_cons, joinWords_append (Ne.symm filled.1) behind, ← later]
      exact joinWords_cons_cons _ _ _

/-! ### One step of packing -/

theorem pack_nil_cons (budget : Int) (word : List Char) (rest : List (List Char)) :
    pack budget [] (word :: rest) = pack budget word rest := by
  rw [pack, if_pos List.isEmpty_nil]

theorem pack_cons {line : List Char} (filled : line ≠ []) (word : List Char)
    (rest : List (List Char)) :
    pack budget line (word :: rest) =
      if ((line ++ ' ' :: word).length : Int) ≤ budget then pack budget (line ++ ' ' :: word) rest
      else line :: pack budget word rest := by
  rw [pack, if_neg (by simpa using filled)]
  by_cases short : ((line ++ ' ' :: word).length : Int) ≤ budget
  · rw [if_pos short, if_neg (by omega)]
  · rw [if_neg short, if_pos (by omega)]

/-- The same for a line of open words. -/
theorem pack_joinWords_cons {opened : List (List Char)} (nonempty : opened ≠ [])
    (solid : ∀ word ∈ opened, word ≠ []) (word : List Char) (rest : List (List Char)) :
    pack budget (joinWords opened) (word :: rest) =
      if ((joinWords (opened ++ [word])).length : Int) ≤ budget then
        pack budget (joinWords (opened ++ [word])) rest
      else joinWords opened :: pack budget word rest := by
  rw [pack_cons (joinWords_ne_nil nonempty solid), joinWords_append nonempty (List.cons_ne_nil _ _),
    joinWords_singleton]

theorem length_add_space (line word : List Char) :
    (line ++ ' ' :: word).length = line.length + word.length + 1 := by
  simp [Nat.add_assoc]

theorem fits_iff {line : List (List Char)} :
    Fits indent line ↔ ((joinWords line).length : Int) ≤ textBudget indent ∨ line.length = 1 := by
  simp only [Fits, textBudget, markBudget, lineWidth]
  omega

/-! ### Packing cuts the words -/

/-- The packed texts are those of a cut of the words, the first line of which starts with the open
words. -/
theorem pack_cuts {opened rest : List (List Char)} (nonempty : opened ≠ [])
    (fits : Fits indent opened) (solid : ∀ word ∈ opened ++ rest, word ≠ []) :
    ∃ lines, pack (textBudget indent) (joinWords opened) rest = lines.map joinWords ∧
      Cuts indent (opened ++ rest) lines ∧ [] ∉ lines := by
  induction rest generalizing opened with
  | nil => exact ⟨[opened], rfl, ⟨by simp, by simpa using fits⟩, by simpa using nonempty⟩
  | cons word rest ih =>
    rw [pack_joinWords_cons nonempty fun other member => solid other (by simp [member])]
    split
    next short =>
      -- The word goes to the open line.
      have regroup : opened ++ word :: rest = (opened ++ [word]) ++ rest := by simp
      rw [regroup] at solid ⊢
      exact ih (by simp) (fits_iff.mpr (Or.inl short)) solid
    next =>
      -- The open line is closed, and the word opens the next one.
      have later := ih (List.cons_ne_nil word []) (Or.inr rfl) fun other member =>
        solid other (List.mem_append_right opened member)
      obtain ⟨lines, packed, ⟨parts, fitting⟩, lined⟩ := later
      rw [joinWords_singleton] at packed
      refine ⟨opened :: lines, by rw [packed, List.map_cons], ⟨?_, ?_⟩, ?_⟩
      · rw [List.flatten_cons, parts]
        rfl
      · exact List.forall_mem_cons.mpr ⟨fits, fitting⟩
      · simpa using ⟨nonempty, lined⟩

/-! ### No cut has fewer lines -/

/-- Behind a longer open line packing takes as many lines as behind a shorter one, or one more. -/
theorem length_pack_between {short long : List Char} {rest : List (List Char)}
    (filled : short ≠ []) (shorter : short.length ≤ long.length)
    (solid : ∀ word ∈ rest, word ≠ []) :
    (pack budget short rest).length ≤ (pack budget long rest).length ∧
      (pack budget long rest).length ≤ (pack budget short rest).length + 1 := by
  -- Each of the two bounds needs the other one for the words that are left.
  induction rest generalizing short long with
  | nil => simp [pack]
  | cons word rest ih =>
    have filled' : long ≠ [] := by
      rintro rfl
      exact filled (List.length_eq_zero_iff.mp (Nat.le_zero.mp shorter))
    have first := solid word (by simp)
    have others : ∀ other ∈ rest, other ≠ [] := fun other member => solid other (by simp [member])
    have sizes := length_add_space short word
    have sizes' := length_add_space long word
    rw [pack_cons filled, pack_cons filled']
    split
    · have onward : short ++ ' ' :: word ≠ [] := by simp
      split
      · exact ih onward (by omega) others
      · -- Only the longer line is closed, and the word starts a line shorter than the other.
        have shorter' : word.length ≤ (short ++ ' ' :: word).length := by omega
        have bounds := ih first shorter' others
        rw [List.length_cons]
        omega
    · -- With the shorter line the longer one is closed, too.
      rw [if_neg (by omega)]
      simp

/-- Packing onto an open line saves at most the line itself. -/
theorem length_pack_le_succ {line : List Char} {rest : List (List Char)} (filled : line ≠ [])
    (solid : ∀ word ∈ rest, word ≠ []) :
    (pack budget line rest).length ≤ (pack budget [] rest).length + 1 := by
  cases rest with
  | nil => simp [pack]
  | cons word rest =>
    have first := solid word (by simp)
    have others : ∀ other ∈ rest, other ≠ [] := fun other member => solid other (by simp [member])
    rw [pack_nil_cons, pack_cons filled]
    split
    · have size := length_add_space line word
      exact (length_pack_between first (by omega) others).2
    · exact Nat.le_refl _

/-- Words that fit on the open line all go there. -/
theorem pack_within {opened group rest : List (List Char)} (nonempty : opened ≠ [])
    (solid : ∀ word ∈ opened ++ group, word ≠ [])
    (short : ((joinWords (opened ++ group)).length : Int) ≤ budget) :
    pack budget (joinWords opened) (group ++ rest) =
      pack budget (joinWords (opened ++ group)) rest := by
  induction group generalizing opened with
  | nil => simp
  | cons word group ih =>
    have regroup : opened ++ word :: group = (opened ++ [word]) ++ group := by simp
    have own : ∀ other ∈ opened, other ≠ [] := fun other member => solid other (by simp [member])
    rw [regroup] at solid short ⊢
    -- What is on the line after this word is a part of what fits on it in the end.
    have longer : opened ++ [word] ≠ [] := by simp
    have part : (joinWords (opened ++ [word])).length ≤
        (joinWords ((opened ++ [word]) ++ group)).length := by
      cases group with
      | nil => simp
      | cons other more =>
        rw [joinWords_append longer (List.cons_ne_nil _ _), List.length_append]
        exact Nat.le_add_right _ _
    rw [List.cons_append, pack_joinWords_cons nonempty own, if_pos (by omega)]
    exact ih longer solid short

/-- Greedy packing has no more lines than any cut. -/
theorem length_pack_le_of_cuts {all : List (List Char)} {lines : List (List (List Char))}
    (nonempty : all ≠ []) (solid : ∀ word ∈ all, word ≠ []) (cuts : Cuts indent all lines) :
    (pack (textBudget indent) [] all).length ≤ lines.length := by
  obtain ⟨parts, fits⟩ := cuts
  induction lines generalizing all with
  | nil => exact absurd parts.symm nonempty
  | cons line lines ih =>
    rw [List.flatten_cons] at parts
    subst parts
    have others : ∀ word ∈ lines.flatten, word ≠ [] :=
      fun word member => solid word (List.mem_append_right line member)
    have below (more : lines.flatten ≠ []) : (pack (textBudget indent) [] lines.flatten).length ≤
        lines.length :=
      ih more others rfl fun other member => fits other (by simp [member])
    cases line with
    | nil => exact Nat.le_succ_of_le (below nonempty)
    | cons word group =>
      have mine : ∀ other ∈ [word] ++ group, other ≠ [] :=
        fun other member => solid other (List.mem_append_left _ member)
      -- The greedy first line takes all words of this one.
      have taken : pack (textBudget indent) [] (word :: group ++ lines.flatten) =
          pack (textBudget indent) (joinWords (word :: group)) lines.flatten := by
        rw [List.cons_append, pack_nil_cons]
        rcases fits_iff.mp (fits (word :: group) (by simp)) with short | alone
        · have onward : pack (textBudget indent) (joinWords [word]) (group ++ lines.flatten) = _ :=
            pack_within (List.cons_ne_nil word []) mine short
          rwa [joinWords_singleton] at onward
        · have none : group = [] := by simpa using alone
          simp [none]
      rw [taken, List.length_cons]
      by_cases more : lines.flatten = []
      · rw [more]
        simp [pack]
      · have filled := joinWords_ne_nil (List.cons_ne_nil word group) mine
        exact Nat.le_trans (length_pack_le_succ filled others) (Nat.succ_le_succ (below more))

/-! ### The lines of a comment -/

/-- The texts of the lines are those of a cut of the words. -/
theorem lineTexts_cuts {all : List (List Char)} (nonempty : all ≠ [])
    (solid : ∀ word ∈ all, word ≠ []) (indent : List Char) :
    ∃ lines, lineTexts all indent = lines.map joinWords ∧ Cuts indent all lines ∧ [] ∉ lines := by
  obtain ⟨first, rest, rfl⟩ := List.exists_cons_of_ne_nil nonempty
  have fits : Fits indent [first] := Or.inr rfl
  have begun := pack_cuts (List.cons_ne_nil first []) fits solid
  rwa [joinWords_singleton, ← pack_nil_cons] at begun

/-- The lines of a comment are cut from its words, and no cut into lines that fit has fewer. -/
theorem layout_fewestLines {comment : List Char} (spoken : words comment ≠ [])
    (indent : List Char) :
    ∃ lines,
      lineTexts (words comment) indent = lines.map joinWords ∧
      indent ++ layout comment indent = commentLines indent (lines.map joinWords) ++ indent ∧
      joinWords (lines.map joinWords) = joinWords (words comment) ∧
      Cuts indent (words comment) lines ∧ [] ∉ lines ∧
      ∀ other, Cuts indent (words comment) other → lines.length ≤ other.length := by
  have solid : ∀ word ∈ words comment, word ≠ [] :=
    fun word member => (isWord_of_mem_words member).1
  obtain ⟨lines, packed, cuts, filled⟩ := lineTexts_cuts spoken solid indent
  refine ⟨lines, packed, ?_, ?_, cuts, filled, fun other cuts' => ?_⟩
  · rw [layout, layoutWords_eq, packed, indent_append_indentedLines]
  · rw [joinWords_map_joinWords filled, cuts.parts]
  · have fewest := length_pack_le_of_cuts spoken solid cuts'
    rwa [← lineTexts, packed, List.length_map] at fewest

/-- An indentation that leaves room for six characters of text. -/
def narrowIndent : List Char :=
  List.replicate 90 ' '

/-- A word that is too long stands alone, and one that is just short enough joins the line. -/
theorem layout_fewestLines_narrow :
    words "aa bbb cc dddddddd e".toList ≠ [] ∧
    lineTexts (words "aa bbb cc dddddddd e".toList) narrowIndent =
      ["aa bbb".toList, "cc".toList, "dddddddd".toList, "e".toList] ∧
    ∀ other, Cuts narrowIndent (words "aa bbb cc dddddddd e".toList) other →
      4 ≤ other.length := by
  have spoken : words "aa bbb cc dddddddd e".toList ≠ [] := by decide
  have texts : lineTexts (words "aa bbb cc dddddddd e".toList) narrowIndent =
      ["aa bbb".toList, "cc".toList, "dddddddd".toList, "e".toList] := by
    decide
  obtain ⟨lines, packed, _, _, _, _, fewest⟩ := layout_fewestLines spoken narrowIndent
  have four : lines.length = 4 := by
    rw [← List.length_map (f := joinWords), ← packed, texts]
    rfl
  exact ⟨spoken, texts, fun other cuts => four ▸ fewest other cuts⟩

end SchemaDoc.Comment
