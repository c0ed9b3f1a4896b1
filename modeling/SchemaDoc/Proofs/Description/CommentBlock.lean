import Mathlib.Algebra.Ring.Nat
import SchemaDoc.Description.Restoration
import SchemaDoc.Proofs.Comment.Layout
import SchemaDoc.Proofs.Editing.Lines
import SchemaDoc.Proofs.Text.Boundary

/-!
# Blocks of comments

Whatever a description holds, the block that says it consists of line comments: each line is the
indentation, the mark and a text without a line break, so nothing of a description is ever read as
code. The words of a description hold no blanks, whether it is text or is shown quoted, and packing
puts nothing but single spaces between them.
-/
namespace SchemaDoc.Description

open Comment
open Editing (clip lineStart newline_notMem_slice_lineStart slice sliceTo)
open Text (Bytes encode isBlank isBlankByte leadingBlanks nextChar)

/-! ### Words -/

/-- The marks that a text is quoted with. -/
def quoteMarks : List Char := ['"', '\'']

/-- What stands for a byte in quotes is not blank, unless the byte is. -/
theorem escapeAscii_solid : ∀ number < 256, isBlankByte (UInt8.ofNat number) = false →
    quoteMarks.all fun mark =>
      (Text.escapeAscii mark (Char.ofNat number)).all fun char => !isBlank char := by
  decide +kernel

theorem isWord_quoteBytes {bytes : Bytes} (solid : ∀ byte ∈ bytes, isBlankByte byte = false) :
    IsWord (Text.quoteBytes bytes) := by
  refine ⟨List.cons_ne_nil _ _, ?_⟩
  simp only [Text.quoteBytes]
  have quote : Text.quoteMark (bytes.contains 0x27) (bytes.contains 0x22) ∈ quoteMarks := by
    rw [Text.quoteMark]
    split <;> decide
  generalize Text.quoteMark (bytes.contains 0x27) (bytes.contains 0x22) = mark at *
  have edge : isBlank mark = false := by
    have marks : quoteMarks.all fun mark => !isBlank mark := by decide
    simpa using List.all_eq_true.mp marks mark quote
  intro char member
  simp only [List.cons_append, List.mem_cons, List.mem_append, List.mem_flatMap, List.not_mem_nil,
    or_false] at member
  rcases member with rfl | rfl | ⟨byte, inside, shown⟩ | rfl
  · decide
  · exact edge
  · have clear := solid byte inside
    rw [← UInt8.ofNat_toNat (x := byte)] at clear
    have escaped := List.all_eq_true.mp (escapeAscii_solid byte.toNat byte.toNat_lt clear) mark quote
    simpa using List.all_eq_true.mp escaped char shown
  · exact edge

theorem isWord_of_mem_descriptionWords {description : Bytes} {word : List Char}
    (member : word ∈ descriptionWords description) : IsWord word := by
  rw [descriptionWords] at member
  split at member
  · exact isWord_of_mem_words member
  · obtain ⟨bytes, inside, rfl⟩ := List.mem_map.mp member
    exact isWord_quoteBytes (Text.wordsBy_mem isBlankByte inside).2

/-! ### Indentation -/

theorem mem_encode_of_mem {char : Char} {text : List Char} {byte : UInt8}
    (member : char ∈ text) (written : byte ∈ String.utf8EncodeChar char) : byte ∈ encode text :=
  List.mem_flatMap.mpr ⟨char, member, written⟩

/-- A place behind the end of the buffer means its end. -/
theorem linePrefix_min (buffer : Bytes) (position : Nat) :
    linePrefix buffer (min position buffer.length : Nat) = linePrefix buffer position := by
  have moved : clip buffer.length (min position buffer.length : Nat) =
      clip buffer.length position := by
    unfold clip
    split <;> split <;> omega
  simp only [linePrefix, slice, lineStart, sliceTo, moved]

/-- The indentation of a line is blank and on that line. -/
theorem indent_of_linePrefix (buffer : Bytes) (position : Nat) :
    ∀ char ∈ (leadingBlanks (linePrefix buffer position)).1,
      isBlank char = true ∧ char ≠ '\n' := by
  intro char member
  refine ⟨Text.isBlank_of_mem_leadingBlanks member, ?_⟩
  rintro rfl
  apply newline_notMem_slice_lineStart (Nat.min_le_right position buffer.length)
  -- The characters of the indentation are encoded in the line up to the position.
  have parts := Text.encode_leadingBlanks (linePrefix buffer position)
  rw [← linePrefix_min] at parts member
  rw [linePrefix] at parts member
  rw [← parts]
  exact List.mem_append_left _ (mem_encode_of_mem member (by decide))

/-! ### Lines -/

/-- The texts of the lines that descriptions fill. -/
def blockTexts (indent : List Char) (descriptions : List Bytes) : List (List Char) :=
  descriptions.flatMap fun description => lineTexts (descriptionWords description) indent

/-- A block is the lines of its texts, below the line before it if code stands there. -/
theorem commentBlock_eq {buffer : Bytes} {position : Nat} {indent : List Char} {code : Bytes}
    (parts : leadingBlanks (linePrefix buffer position) = (indent, code))
    (descriptions : List Bytes) :
    commentBlock buffer position descriptions =
      encode ((if code.isEmpty then [] else '\n' :: indent) ++
        indentedLines indent (blockTexts indent descriptions)) := by
  have laid : (descriptions.flatMap fun description =>
      layoutWords (descriptionWords description) indent) =
      indentedLines indent (blockTexts indent descriptions) := by
    rw [indentedLines, blockTexts, List.flatMap_assoc]
    exact List.flatMap_congr fun description _ => layoutWords_eq _ _
  simp only [commentBlock, parts, laid]
  split <;> rfl

theorem length_blockTexts (indent : List Char) (descriptions : List Bytes) :
    (blockTexts indent descriptions).length = (descriptions.map fun description =>
      (lineTexts (descriptionWords description) indent).length).sum := by
  rw [blockTexts, List.length_flatMap]

theorem isPlain_of_mem_blockTexts {indent : List Char} {descriptions : List Bytes} :
    ∀ text ∈ blockTexts indent descriptions, IsPlain text := by
  intro text member
  obtain ⟨description, _, packed⟩ := List.mem_flatMap.mp member
  exact isPlain_of_mem_pack isPlain_nil (fun _ => isWord_of_mem_descriptionWords) text packed

/-- `block` says descriptions in line comments behind what stands on the line before it: blanks to
be the indentation, and perhaps code behind them. -/
structure SaysInComments (before : Bytes) (descriptions : List Bytes) (indent : List Char)
    (code : Bytes) (texts : List (List Char)) (block : Bytes) : Prop where
  parts : before = encode indent ++ code
  blanks : ∀ char ∈ indent, isBlank char = true ∧ char ≠ '\n'
  /-- The indentation is all the blanks that the line starts with. -/
  solid : ∀ char rest, nextChar code = some (char, rest) → isBlank char = false
  /-- With nothing but blanks before it, the block continues their line. -/
  alone : code = [] → before ++ block = encode (commentLines indent texts ++ indent)
  /-- With code before it, the block ends that line first. -/
  shared : code ≠ [] → block = encode ('\n' :: commentLines indent texts ++ indent)
  plain : ∀ text ∈ texts, IsPlain text
  count : texts.length = (descriptions.map fun description =>
    (lineTexts (descriptionWords description) indent).length).sum

/-- Whatever descriptions hold, and whatever stands on the line before, their block says them in
line comments and in nothing else. -/
theorem commentBlock_saysInComments (buffer : Bytes) (position : Nat) (descriptions : List Bytes) :
    ∃ indent code texts, SaysInComments (linePrefix buffer position) descriptions indent code texts
      (commentBlock buffer position descriptions) := by
  rcases cut : leadingBlanks (linePrefix buffer position) with ⟨indent, code⟩
  have parts := Text.encode_leadingBlanks (linePrefix buffer position)
  have blanks := indent_of_linePrefix buffer position
  have solid : ∀ char rest,
      nextChar (leadingBlanks (linePrefix buffer position)).2 = some (char, rest) →
        isBlank char = false :=
    fun _ _ => Text.not_isBlank_of_nextChar_leadingBlanks
  have block := commentBlock_eq cut descriptions
  rw [cut] at parts blanks solid
  -- The two layouts are left: with nothing but blanks before the block, and with code.
  refine ⟨indent, code, blockTexts indent descriptions, parts.symm, blanks, solid, ?_, ?_,
    isPlain_of_mem_blockTexts, length_blockTexts indent descriptions⟩
  · rintro rfl
    rw [block, ← parts, List.append_nil, ← Text.encode_append]
    exact congrArg encode (indent_append_indentedLines _ _)
  · intro code
    rw [block, if_neg (by simpa using code), List.cons_append, indent_append_indentedLines]
    rfl

/-- Line breaks and marks inside a description stay inside its comment. -/
example : commentBlock (encode "  A = 0;".toList) 2 [encode "x\n*/ y\x0D // z".toList, []] =
    encode "// x */ y // z\n  // \n  ".toList := by
  cbv

end SchemaDoc.Description
