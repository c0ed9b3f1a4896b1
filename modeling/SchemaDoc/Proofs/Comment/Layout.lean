import Mathlib.Data.List.Chain
import Mathlib.Data.List.TakeWhile
import SchemaDoc.Comment.Layout
import SchemaDoc.Proofs.Text.Blank

/-!
# The words of a laid out comment

Laying words out as line comments loses none of them: the lines of the block, each without its
indentation and comment mark, hold the same words in the same order. Packing keeps the words of
the open line and those to come, and no text that it packs breaks a line.
-/
namespace SchemaDoc.Comment

open Text (isBlank words)

/-- A word of a comment is not empty and has no blank in it. -/
def IsWord (word : List Char) : Prop :=
  word ≠ [] ∧ ∀ char ∈ word, isBlank char = false

/-- The words of a line, without its indentation and the mark behind that. -/
def lineWords (line : List Char) : List (List Char) :=
  let content := line.dropWhile isBlank
  words (if mark.isPrefixOf content then content.drop mark.length else content)

/-- The words on the lines of a block, in order. -/
def blockWords (block : List Char) : List (List Char) :=
  (block.splitOn '\n').flatMap lineWords

theorem isWord_of_mem_words {text word : List Char} (member : word ∈ words text) : IsWord word :=
  Text.wordsBy_mem isBlank member

/-! ### Packing -/

theorem pack_ne_nil (budget : Int) (line : List Char) (all : List (List Char)) :
    pack budget line all ≠ [] := by
  induction all generalizing line with
  | nil => exact List.cons_ne_nil _ _
  | cons word rest ih =>
    simp only [pack]
    split
    · exact ih word
    · split
      · exact List.cons_ne_nil _ _
      · exact ih _

/-- The lines hold the words of the open line and then all the others. -/
theorem words_pack (budget : Int) (line : List Char) {all : List (List Char)}
    (isWord : ∀ word ∈ all, IsWord word) :
    (pack budget line all).flatMap words = words line ++ all := by
  induction all generalizing line with
  | nil => simp [pack]
  | cons word rest ih =>
    have first := isWord word (by simp)
    have others := fun begun => ih begun fun other member => isWord other (by simp [member])
    have itself : words word = [word] := Text.wordsBy_solid first.1 first.2
    have longer : words (line ++ ' ' :: word) = words line ++ [word] := by
      rw [← itself]
      exact Text.wordsBy_append_cons (by decide) line word
    simp only [pack]
    split
    next empty =>
      -- Nothing is open yet, so the word opens the line itself.
      have none : line = [] := by simpa using empty
      rw [others, itself, none]
      rfl
    next =>
      split
      · -- The open line is full and closed.
        rw [List.flatMap_cons, others, itself]
        rfl
      · rw [others, longer, List.append_assoc]
        rfl

/-- A text whose only blanks are single spaces inside it. -/
structure IsPlain (text : List Char) : Prop where
  spaces : ∀ char ∈ text, isBlank char = true → char = ' '
  single : text.IsChain fun first second => isBlank first = true → isBlank second = false
  begins : ∀ char ∈ text.head?, isBlank char = false
  ends : ∀ char ∈ text.getLast?, isBlank char = false

theorem isPlain_nil : IsPlain [] := ⟨by simp, .nil, by simp, by simp⟩

theorem IsWord.isPlain {word : List Char} (isWord : IsWord word) : IsPlain word where
  spaces := fun char member blank => by
    rw [isWord.2 char member] at blank
    cases blank
  single := by
    refine (List.pairwise_of_forall_mem_list fun _ _ second member => ?_).isChain
    exact fun _ => isWord.2 second member
  begins := fun char member => isWord.2 char (List.mem_of_mem_head? member)
  ends := fun char member => isWord.2 char (List.mem_of_mem_getLast? member)

theorem IsPlain.newline_notMem {text : List Char} (plain : IsPlain text) : '\n' ∉ text := by
  intro member
  have space := plain.spaces '\n' member (by decide)
  revert space
  decide

/-- One more word behind a space. -/
theorem IsPlain.add {line word : List Char} (plain : IsPlain line) (nonempty : line ≠ [])
    (isWord : IsWord word) : IsPlain (line ++ ' ' :: word) where
  spaces := by
    intro char member blank
    rcases List.mem_append.mp member with inside | behind
    · exact plain.spaces char inside blank
    · rcases List.mem_cons.mp behind with rfl | inside
      · rfl
      · exact isWord.isPlain.spaces char inside blank
  single := by
    refine List.isChain_append.mpr ⟨plain.single, ?_, ?_⟩
    · exact List.isChain_cons.mpr
        ⟨fun next first _ => isWord.isPlain.begins next first, isWord.isPlain.single⟩
    · intro last found next _ blank
      rw [plain.ends last found] at blank
      cases blank
  begins := by
    rw [List.head?_append_of_ne_nil _ nonempty]
    exact plain.begins
  ends := by
    rw [List.getLast?_append_of_ne_nil _ (List.cons_ne_nil _ _),
      List.getLast?_cons_of_ne_nil isWord.1]
    exact isWord.isPlain.ends

/-- Every packed text is plain. -/
theorem isPlain_of_mem_pack {budget : Int} {line : List Char} {all : List (List Char)}
    (plain : IsPlain line) (isWord : ∀ word ∈ all, IsWord word) :
    ∀ text ∈ pack budget line all, IsPlain text := by
  induction all generalizing line with
  | nil => simpa [pack] using plain
  | cons word rest ih =>
    have first := isWord word (by simp)
    have others := fun (begun : List Char) (fine : IsPlain begun) =>
      ih fine fun other member => isWord other (by simp [member])
    simp only [pack]
    split
    · exact others word first.isPlain
    next nonempty =>
      split
      · intro text member
        rcases List.mem_cons.mp member with rfl | member
        · exact plain
        · exact others word first.isPlain text member
      · exact others _ (plain.add (by simpa using nonempty) first)

/-! ### Lines of a block -/

/-- The lines of texts, with the indentation of the next one behind each. -/
def indentedLines (indent : List Char) (texts : List (List Char)) : List Char :=
  texts.flatMap fun text => renderLine text ++ indent

/-- The lines of texts, each with its indentation before it. -/
def commentLines (indent : List Char) (texts : List (List Char)) : List Char :=
  texts.flatMap fun text => indent ++ mark ++ text ++ ['\n']

theorem renderLines_append_indent (indent : List Char) {texts : List (List Char)}
    (nonempty : texts ≠ []) : renderLines indent texts ++ indent = indentedLines indent texts := by
  induction texts with
  | nil => exact absurd rfl nonempty
  | cons text rest ih =>
    cases rest with
    | nil => simp [renderLines, indentedLines]
    | cons next more =>
      have later := ih (List.cons_ne_nil _ _)
      simp only [renderLines, indentedLines, List.map_cons, List.intersperse_cons_cons,
        List.flatten_cons, List.flatMap_cons, List.append_assoc] at later ⊢
      rw [later]

theorem indent_append_indentedLines (indent : List Char) (texts : List (List Char)) :
    indent ++ indentedLines indent texts = commentLines indent texts ++ indent := by
  induction texts with
  | nil => simp [indentedLines, commentLines]
  | cons text rest ih =>
    simp only [indentedLines, commentLines, renderLine, List.flatMap_cons, List.append_assoc]
      at ih ⊢
    rw [ih]

/-- Behind the last line stands the indentation for what comes next. -/
theorem indentedLines_concat (indent text : List Char) (texts : List (List Char)) :
    indentedLines indent (texts ++ [text]) =
      (indentedLines indent texts ++ (mark ++ text)) ++ '\n' :: indent := by
  simp [indentedLines, renderLine]

theorem lineTexts_ne_nil (all : List (List Char)) (indent : List Char) :
    lineTexts all indent ≠ [] :=
  pack_ne_nil _ _ _

theorem layoutWords_eq (all : List (List Char)) (indent : List Char) :
    layoutWords all indent = indentedLines indent (lineTexts all indent) :=
  renderLines_append_indent indent (lineTexts_ne_nil all indent)

theorem lineWords_marked {indent : List Char} (blank : ∀ char ∈ indent, isBlank char = true)
    (text : List Char) : lineWords (indent ++ (mark ++ text)) = words text := by
  have content : (indent ++ (mark ++ text)).dropWhile isBlank = mark ++ text := by
    rw [List.dropWhile_append_of_pos blank]
    rfl
  rw [lineWords, content, if_pos (by simp), List.drop_left]

theorem lineWords_blank {line : List Char} (blank : ∀ char ∈ line, isBlank char = true) :
    lineWords line = [] := by
  have content : line.dropWhile isBlank = [] := List.dropWhile_eq_nil_iff.mpr blank
  rw [lineWords, content]
  rfl

theorem blockWords_newline (rest : List Char) : blockWords ('\n' :: rest) = blockWords rest := by
  have parts := List.splitOn_append_cons_self_of_not_mem (List.not_mem_nil (a := '\n')) rest
  rw [List.nil_append] at parts
  rw [blockWords, parts, List.flatMap_cons]
  rfl

/-- Cutting a block at its line breaks gives its lines, and the indentation behind the last. -/
theorem splitOn_indentedLines {lead indent text : List Char} {rest : List (List Char)}
    (leads : '\n' ∉ lead) (indents : '\n' ∉ indent)
    (unbroken : ∀ other ∈ text :: rest, '\n' ∉ other) :
    (lead ++ indentedLines indent (text :: rest)).splitOn '\n' =
      (lead ++ (mark ++ text)) ::
        ((rest.map fun other => indent ++ (mark ++ other)) ++ [indent]) := by
  -- What is left behind one line is the indentation of the next, which is `lead` from then on.
  induction rest generalizing lead text with
  | nil =>
    have whole : '\n' ∉ lead ++ (mark ++ text) := by simpa [mark, leads] using unbroken
    have parts : lead ++ indentedLines indent [text] =
        (lead ++ (mark ++ text)) ++ '\n' :: indent := by
      simp [indentedLines, renderLine]
    rw [parts, List.splitOn_append_cons_self_of_not_mem whole, List.splitOn_eq_singleton indents]
    rfl
  | cons next more ih =>
    have first := unbroken text (by simp)
    have whole : '\n' ∉ lead ++ (mark ++ text) := by simp [mark, leads, first]
    have parts : lead ++ indentedLines indent (text :: next :: more) =
        (lead ++ (mark ++ text)) ++ '\n' :: (indent ++ indentedLines indent (next :: more)) := by
      simp [indentedLines, renderLine]
    rw [parts, List.splitOn_append_cons_self_of_not_mem whole,
      ih indents fun other member => unbroken other (List.mem_cons_of_mem text member)]
    rfl

/-- The words of lines are those of their texts, whatever the first of them is indented with. -/
theorem blockWords_indentedLines {lead indent : List Char} {texts : List (List Char)}
    (leads : ∀ char ∈ lead, isBlank char = true ∧ char ≠ '\n')
    (indents : ∀ char ∈ indent, isBlank char = true ∧ char ≠ '\n')
    (unbroken : ∀ text ∈ texts, '\n' ∉ text) :
    blockWords (lead ++ indentedLines indent texts) = texts.flatMap words := by
  have leadWhole : '\n' ∉ lead := fun member => (leads _ member).2 rfl
  have indentWhole : '\n' ∉ indent := fun member => (indents _ member).2 rfl
  have leadBlank := fun char member => (leads char member).1
  have indentBlank := fun char member => (indents char member).1
  cases texts with
  | nil =>
    simp [blockWords, indentedLines, List.splitOn_eq_singleton leadWhole, lineWords_blank leadBlank]
  | cons text rest =>
    have lines : (rest.map fun other => indent ++ (mark ++ other)).flatMap lineWords =
        rest.flatMap words := by
      rw [List.flatMap_map]
      exact List.flatMap_congr fun other _ => lineWords_marked indentBlank other
    rw [blockWords, splitOn_indentedLines leadWhole indentWhole unbroken, List.flatMap_cons,
      List.flatMap_append, List.flatMap_singleton, lineWords_marked leadBlank, lines,
      lineWords_blank indentBlank, List.append_nil, List.flatMap_cons]

end SchemaDoc.Comment
