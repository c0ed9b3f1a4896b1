import SchemaDoc.Description.Embedding
import SchemaDoc.Description.Restoration
import SchemaDoc.Proofs.Comment.Paragraph
import SchemaDoc.Proofs.Text.Utf8

/-!
# Wrapping and joining again

A comment that was laid out is read back from its lines, each without its indentation and slashes.
Joining these lines gives the words of the comment with single spaces between them. Laying out
depends on words only, so whether the lines are joined or only trimmed before they are stored, they
are laid out as the same block again.
-/
namespace SchemaDoc.Description

open Comment
open Text (encode isBlank strip words)

/-- What a line of a comment says: what is behind its indentation and the slashes there. -/
def uncomment (line : List Char) : List Char :=
  let content := line.dropWhile isBlank
  if ['/', '/'].isPrefixOf content then content.drop 2 else content

/-- What the lines of a block say, each with its end. Behind the last of them stands the
indentation of the declaration. -/
def unwrap (block : List Char) : List Char :=
  (block.splitOn '\n').dropLast.flatMap fun line => uncomment line ++ ['\n']

variable {indent : List Char} {all : List (List Char)}

/-! ### What the lines say -/

theorem uncomment_marked (blank : ∀ char ∈ indent, isBlank char = true) (text : List Char) :
    uncomment (indent ++ (mark ++ text)) = ' ' :: text := by
  have content : (indent ++ (mark ++ text)).dropWhile isBlank = mark ++ text := by
    rw [List.dropWhile_append_of_pos blank]
    rfl
  rw [uncomment, content]
  rfl

/-- A block says its texts, each behind a space. -/
theorem unwrap_indentedLines (indents : ∀ char ∈ indent, isBlank char = true ∧ char ≠ '\n')
    {texts : List (List Char)} (nonempty : texts ≠ []) (unbroken : ∀ text ∈ texts, '\n' ∉ text) :
    unwrap (indentedLines indent texts) = [' '] ++ (wrapLines texts ++ ['\n']) := by
  have indentWhole : '\n' ∉ indent := fun member => (indents _ member).2 rfl
  have indentBlank := fun char member => (indents char member).1
  obtain ⟨text, rest, rfl⟩ := List.exists_cons_of_ne_nil nonempty
  have unindented : '\n' ∉ ([] : List Char) := List.not_mem_nil
  have lines := splitOn_indentedLines unindented indentWhole unbroken
  have first : uncomment ([] ++ (mark ++ text)) = ' ' :: text := uncomment_marked (by simp) text
  rw [List.nil_append] at first
  rw [List.nil_append, List.nil_append, ← List.cons_append] at lines
  rw [unwrap, lines, List.dropLast_concat, List.flatMap_cons, List.flatMap_map, first,
    List.flatMap_congr fun other _ => congrArg (· ++ ['\n']) (uncomment_marked indentBlank other)]
  clear lines first unbroken nonempty
  induction rest generalizing text with
  | nil => simp [wrapLines]
  | cons next more ih =>
    rw [wrapLines_cons_cons, List.flatMap_cons, ih next]
    simp

/-! ### Words -/

theorem words_joinWords (isWord : ∀ word ∈ all, IsWord word) : words (joinWords all) = all := by
  have itself : ∀ word ∈ all, words word = [word] := fun word member =>
    Text.wordsBy_solid (isWord word member).1 (isWord word member).2
  have space : isBlank ' ' = true := rfl
  rw [joinWords, words_intercalate space (List.forall_mem_nil _), List.flatMap_congr itself,
    List.flatMap_singleton']

theorem words_wrapLines (texts : List (List Char)) :
    words (wrapLines texts) = texts.flatMap words :=
  words_intercalate (by decide : isBlank '\n' = true) (List.forall_mem_singleton.mpr rfl) texts

/-! ### Blocks of words -/

/-- What the block of some words says: texts that hold these words, below each other. -/
theorem unwrap_layoutWords (indents : ∀ char ∈ indent, isBlank char = true ∧ char ≠ '\n')
    (nonempty : all ≠ []) (isWord : ∀ word ∈ all, IsWord word) :
    ∃ texts, unwrap (layoutWords all indent) = [' '] ++ (wrapLines texts ++ ['\n']) ∧
      texts ≠ [] ∧ (∀ text ∈ texts, IsLine text) ∧
      joinWords texts = joinWords all ∧ texts.flatMap words = all := by
  have solid : ∀ word ∈ all, word ≠ [] := fun word member => (isWord word member).1
  have plain : ∀ text ∈ lineTexts all indent, IsPlain text := isPlain_of_mem_pack isPlain_nil isWord
  have lined := lineTexts_ne_nil all indent
  obtain ⟨lines, packed, cuts, filled⟩ := lineTexts_cuts nonempty solid indent
  refine ⟨lineTexts all indent, ?_, lined, fun text member => ?_, ?_, words_pack _ [] isWord⟩
  · rw [layoutWords_eq]
    exact unwrap_indentedLines indents lined fun text member => (plain text member).newline_notMem
  · -- Every line has a word, so none of the texts is empty.
    refine (plain text member).isLine ?_
    rw [packed] at member
    obtain ⟨line, cut, rfl⟩ := List.mem_map.mp member
    have held : ∀ word ∈ line, word ∈ all := fun word inside => by
      rw [← cuts.parts]
      exact List.mem_flatten_of_mem cut inside
    have apart : line ≠ [] := fun none => filled (none ▸ cut)
    exact joinWords_ne_nil apart fun word inside => solid word (held word inside)
  · rw [packed, joinWords_map_joinWords filled, cuts.parts]

/-- Joining what the block of some words says gives these words with single spaces between them. -/
theorem joinLines_unwrap (indents : ∀ char ∈ indent, isBlank char = true ∧ char ≠ '\n')
    (nonempty : all ≠ []) (isWord : ∀ word ∈ all, IsWord word) :
    joinLines (unwrap (layoutWords all indent)) = joinWords all := by
  obtain ⟨texts, said, lined, isLine, joined, _⟩ := unwrap_layoutWords indents nonempty isWord
  rw [said, ← joined]
  exact joinLines_wrapLines lined isLine (List.forall_mem_singleton.mpr rfl)
    (List.forall_mem_singleton.mpr rfl)

/-- Trimming what the block of some words says leaves these words. -/
theorem words_strip_unwrap (indents : ∀ char ∈ indent, isBlank char = true ∧ char ≠ '\n')
    (nonempty : all ≠ []) (isWord : ∀ word ∈ all, IsWord word) :
    words (strip (unwrap (layoutWords all indent))) = all := by
  obtain ⟨texts, said, lined, isLine, _, kept⟩ := unwrap_layoutWords indents nonempty isWord
  obtain ⟨opens, closes⟩ := wrapLines_ends lined isLine
  rw [said, strip_pad opens closes (List.forall_mem_singleton.mpr rfl)
    (List.forall_mem_singleton.mpr rfl), words_wrapLines, kept]

/-! ### Storing -/

theorem normalize_encode (join : Bool) {text : List Char}
    (spoken : (if join then joinLines text else strip text) ≠ []) :
    normalize join (encode text) =
      .ok (some (encode (if join then joinLines text else strip text))) := by
  have written : encode (if join then joinLines text else strip text) ≠ [] :=
    fun none => spoken (Text.encode_inj none)
  simp only [normalize, Text.decode_encode]
  rw [if_neg (by simpa using written)]

theorem descriptionWords_encode (text : List Char) :
    descriptionWords (encode text) = words text := by
  rw [descriptionWords, Text.decode_encode]

/-- A comment that was laid out is joined to its words with single spaces between them. Laying it
out again gives the same block, and so it does if its lines are only trimmed; so what is stored of
the block, in either way, is restored as the same block. -/
theorem layout_unwrap {comment : List Char} (spoken : words comment ≠ [])
    (indents : ∀ char ∈ indent, isBlank char = true ∧ char ≠ '\n') :
    joinLines (unwrap (layout comment indent)) = joinWords (words comment) ∧
    layout (joinWords (words comment)) indent = layout comment indent ∧
    layout (strip (unwrap (layout comment indent))) indent = layout comment indent ∧
    ∀ join, ∃ description,
      normalize join (encode (unwrap (layout comment indent))) = .ok (some description) ∧
      layoutWords (descriptionWords description) indent = layout comment indent := by
  have isWord : ∀ word ∈ words comment, IsWord word := fun _ => isWord_of_mem_words
  have joined : joinLines (unwrap (layout comment indent)) = joinWords (words comment) :=
    joinLines_unwrap indents spoken isWord
  have kept : words (strip (unwrap (layout comment indent))) = words comment :=
    words_strip_unwrap indents spoken isWord
  have held : ∀ join : Bool, words (if join then joinLines (unwrap (layout comment indent))
      else strip (unwrap (layout comment indent))) = words comment := by
    intro join
    cases join with
    | false => exact kept
    | true => exact (congrArg words joined).trans (words_joinWords isWord)
  refine ⟨joined, ?_, ?_, fun join => ⟨_, normalize_encode join ?_, ?_⟩⟩
  · rw [layout, words_joinWords isWord, layout]
  · rw [layout, kept, layout]
  · -- Something is left, since it has words.
    intro none
    rw [← held join, none] at spoken
    exact spoken rfl
  · rw [descriptionWords_encode, held, layout]

/-- A comment whose words are parted by blanks that are not spaces. -/
def blankedComment : List Char :=
  "aa\u0085bb cc\u2028\n\ndd\u00A0".toList

/-- An indentation that leaves room for five characters of text. -/
def wideIndent : List Char :=
  narrowIndent ++ ['\u3000']

/-- The comment is laid out on two lines, and its blanks become spaces. -/
theorem layout_unwrap_blanked :
    words blankedComment ≠ [] ∧ (∀ char ∈ wideIndent, isBlank char = true ∧ char ≠ '\n') ∧
    unwrap (layout blankedComment wideIndent) = " aa bb\n cc dd\n".toList ∧
    joinLines (unwrap (layout blankedComment wideIndent)) = joinWords (words blankedComment) ∧
    layout (joinWords (words blankedComment)) wideIndent = layout blankedComment wideIndent ∧
    layout (strip (unwrap (layout blankedComment wideIndent))) wideIndent =
      layout blankedComment wideIndent ∧
    ∀ join, ∃ description,
      normalize join (encode (unwrap (layout blankedComment wideIndent))) =
        .ok (some description) ∧
      layoutWords (descriptionWords description) wideIndent =
        layout blankedComment wideIndent := by
  have spoken : words blankedComment ≠ [] := by decide
  have indents : ∀ char ∈ wideIndent, isBlank char = true ∧ char ≠ '\n' := by
    intro char member
    rcases List.mem_append.mp member with inside | last
    · rw [List.eq_of_mem_replicate inside]
      decide
    · rw [List.mem_singleton.mp last]
      decide
  have texts : lineTexts (words blankedComment) wideIndent =
      ["aa bb".toList, "cc dd".toList] := by
    decide
  have said : unwrap (layout blankedComment wideIndent) = " aa bb\n cc dd\n".toList := by
    rw [layout, layoutWords_eq, texts, unwrap_indentedLines indents (by decide) (by decide)]
    decide
  exact ⟨spoken, indents, said, layout_unwrap spoken indents⟩

end SchemaDoc.Description
