import Mathlib.Data.List.ModifyLast
import SchemaDoc.Proofs.Comment.Paragraph

/-!
# One line a paragraph

Joining the lines of a comment is told line by line. The lines that are not blank stand in runs,
and each run is a paragraph. Its lines are joined with one space between each two, in place of the
padding there, and the paragraphs are put below each other. So no line that comes out is blank or
has blanks around it, and no word is lost.
-/
namespace SchemaDoc.Comment

open Text (isBlank strip trim trimEnd words wordsBy)

/-- The maximal runs of lines that are not blank. -/
def lineRuns (text : List Char) : List (List (List Char)) :=
  wordsBy isBlankLine (text.splitOn '\n')

/-- The lines of a paragraph without the blanks before the first and behind the last of them. -/
def trimEnds (lines : List (List Char)) : List (List Char) :=
  (lines.modifyHead (List.dropWhile isBlank)).modifyLast (trimEnd isBlank)

/-- The lines of a paragraph with one space between each two, in place of the padding there. -/
def flow (lines : List (List Char)) : List Char :=
  joinWords ((trimEnds lines).map (trim isLinePad))

/-- The paragraphs of a comment below each other, each on one line. -/
def flowed (comment : List Char) : List Char :=
  stack ((lineRuns (strip comment)).map flow)

/-- Lines that make one paragraph. -/
structure IsRun (lines : List (List Char)) : Prop where
  filled : lines ≠ []
  solid : ∀ line ∈ lines, isBlankLine line = false
  unbroken : ∀ line ∈ lines, '\n' ∉ line

/-! ### One paragraph -/

section Paragraph

variable {run : List (List Char)}

theorem IsRun.dropWhile_cons {first : List Char} {rest : List (List Char)}
    (isRun : IsRun (first :: rest)) :
    IsRun (first.dropWhile isBlank :: rest) ∧
      stack (first.dropWhile isBlank :: rest) = (stack (first :: rest)).dropWhile isBlank := by
  have solid := isRun.solid first (by simp)
  refine ⟨⟨by simp, ?_, ?_⟩, ?_⟩
  · exact List.forall_mem_cons.mpr
      ⟨(opens_dropWhile solid).solid, (List.forall_mem_cons.mp isRun.solid).2⟩
  · obtain ⟨begun, others⟩ := List.forall_mem_cons.mp isRun.unbroken
    exact List.forall_mem_cons.mpr
      ⟨fun newline => begun ((List.dropWhile_sublist _).subset newline), others⟩
  · rw [stack, intercalate_cons, stack, intercalate_cons]
    exact (Text.dropWhile_append_solid ((isBlankLine_eq_false first).mp solid) _).symm

theorem IsRun.trimEnd_concat {last : List Char} {front : List (List Char)}
    (isRun : IsRun (front ++ [last])) (opens : ∀ line ∈ (front ++ [last]).head?, Opens line) :
    IsTrimmed (front ++ [trimEnd isBlank last]) ∧
      stack (front ++ [trimEnd isBlank last]) = trimEnd isBlank (stack (front ++ [last])) := by
  have solid := isRun.solid last (by simp)
  refine ⟨⟨by simp, fun line shown => ?_, fun line shown => ?_, fun line member => ?_⟩, ?_⟩
  · cases front with
    | nil =>
      -- The only line is cut at its end here, and begins as it did.
      cases shown
      exact (opens last rfl).trimEnd fun _ solid => solid
    | cons other front => exact opens line shown
  · rw [List.getLast?_append_of_ne_nil _ (by simp), List.getLast?_singleton] at shown
    cases shown
    exact closes_trimEnd solid
  · rcases List.mem_append.mp member with inside | same
    · exact isRun.unbroken line (List.mem_append_left _ inside)
    · rw [List.mem_singleton.mp same]
      exact fun newline => isRun.unbroken last (by simp) (Text.mem_of_mem_trimEnd newline)
  · rw [stack, intercalate_concat, stack, intercalate_concat]
    exact (Text.trimEnd_append_solid ((isBlankLine_eq_false last).mp solid) _).symm

/-- Trimming the two ends of a paragraph changes its first and its last line only. -/
theorem IsRun.trimEnds (isRun : IsRun run) :
    IsTrimmed (trimEnds run) ∧ stack (trimEnds run) = strip (stack run) := by
  obtain ⟨first, rest, rfl⟩ := List.exists_cons_of_ne_nil isRun.filled
  have opens : ∀ line ∈ (first.dropWhile isBlank :: rest).head?, Opens line := by
    simpa using opens_dropWhile (isRun.solid first (by simp))
  obtain ⟨begun, left⟩ := isRun.dropWhile_cons
  -- The last line is the first one when there is only one, so it is looked for after that is cut.
  obtain ⟨front, last, parts⟩ := (List.eq_nil_or_concat' _).resolve_left begun.filled
  have ends : Comment.trimEnds (first :: rest) = front ++ [trimEnd isBlank last] := by
    rw [Comment.trimEnds, List.modifyHead_cons, parts, List.modifyLast_concat]
  rw [parts] at begun opens
  obtain ⟨trimmed, right⟩ := begun.trimEnd_concat opens
  rw [ends, right, ← parts, left]
  exact ⟨trimmed, rfl⟩

theorem IsRun.joinBreaks_strip (isRun : IsRun run) : joinBreaks (strip (stack run)) = flow run := by
  obtain ⟨trimmed, same⟩ := isRun.trimEnds
  rw [← same, joinBreaks_stack trimmed, flow]

/-- Lines that begin and end with words are one line when they are joined. -/
theorem IsTrimmed.isLine {lines : List (List Char)} (trimmed : IsTrimmed lines) :
    IsLine (joinWords (lines.map (trim isLinePad))) := by
  have opens : Opens (joinWords (lines.map (trim isLinePad))) := by
    obtain ⟨first, rest, rfl⟩ := List.exists_cons_of_ne_nil trimmed.filled
    have begun := trimmed.opens first rfl
    refine opens_intercalate ?_ _
    rw [trim, begun.dropWhile_eq fun _ => not_isLinePad]
    exact begun.trimEnd fun _ => not_isLinePad
  have closes : Closes (joinWords (lines.map (trim isLinePad))) := by
    obtain ⟨front, last, rfl⟩ := (List.eq_nil_or_concat' lines).resolve_left trimmed.filled
    have ended := (trimmed.closes last (by simp)).dropWhile fun _ => not_isLinePad
    rw [List.map_append, List.map_singleton]
    refine closes_intercalate ?_ _
    rw [trim, ended.trimEnd_eq fun _ => not_isLinePad]
    exact ended
  obtain ⟨filled, tight⟩ := isTight_iff.mpr ⟨opens, closes⟩
  refine ⟨filled, tight, fun newline => ?_⟩
  -- A line break in the result would be the space between two lines, or in one of them.
  rcases mem_of_mem_intercalate newline with space | ⟨text, member, inside⟩
  · revert space
    decide
  · obtain ⟨line, there, rfl⟩ := List.mem_map.mp member
    exact trimmed.unbroken line there (Text.mem_of_mem_trim inside)

theorem IsRun.words_flow (isRun : IsRun run) : words (flow run) = run.flatMap words := by
  have space : isBlank ' ' = true := rfl
  calc words (flow run)
      = ((Comment.trimEnds run).map (trim isLinePad)).flatMap words :=
        words_intercalate space (List.forall_mem_nil _) _
    _ = (Comment.trimEnds run).flatMap words := by
        -- Padding is blank, so no word goes with it.
        rw [List.flatMap_map]
        exact List.flatMap_congr fun line _ =>
          Text.wordsBy_trim (fun _ => isBlank_of_isLinePad) line
    _ = words (strip (stack run)) := by rw [← words_stack, isRun.trimEnds.2]
    _ = run.flatMap words := by
        rw [← words_stack]
        exact Text.wordsBy_trim (fun _ blank => blank) _

end Paragraph

/-! ### A whole comment -/

theorem isRun_of_mem_lineRuns {text : List Char} {run : List (List Char)}
    (member : run ∈ lineRuns text) : IsRun run := by
  obtain ⟨filled, solid⟩ := Text.wordsBy_mem isBlankLine member
  refine ⟨filled, solid, fun line inside => ?_⟩
  have held : line ∈ (lineRuns text).flatten := List.mem_flatten_of_mem member inside
  rw [lineRuns, Text.wordsBy_flatten] at held
  exact newline_notMem_of_mem_splitOn (List.mem_filter.mp held).1

/-- Blank lines hold no words. -/
theorem flatMap_words_filter (lines : List (List Char)) :
    (lines.filter fun line => !isBlankLine line).flatMap words = lines.flatMap words := by
  induction lines with
  | nil => rfl
  | cons line rest ih =>
    rw [List.filter_cons]
    cases blank : isBlankLine line with
    | false => simp [ih]
    | true => simpa [words, Text.wordsBy_blanks (List.all_eq_true.mp blank)] using ih

theorem words_lineRuns (text : List Char) :
    (lineRuns text).flatMap (fun run => run.flatMap words) = words text := by
  calc (lineRuns text).flatMap (fun run => run.flatMap words)
      = (lineRuns text).flatten.flatMap words := by
        rw [← List.flatMap_id, List.flatMap_assoc]
        rfl
    _ = (text.splitOn '\n').flatMap words := by
        rw [lineRuns, Text.wordsBy_flatten, flatMap_words_filter]
    _ = words text := by rw [← words_stack, stack, List.intercalate_splitOn]

theorem words_flowed (comment : List Char) : words (flowed comment) = words comment := by
  calc words (flowed comment)
      = (lineRuns (strip comment)).flatMap fun run => words (flow run) := by
        rw [flowed, words_stack, List.flatMap_map]
    _ = (lineRuns (strip comment)).flatMap fun run => run.flatMap words :=
        List.flatMap_congr fun _ member => (isRun_of_mem_lineRuns member).words_flow
    _ = words (strip comment) := words_lineRuns _
    _ = words comment := Text.wordsBy_trim (fun _ blank => blank) comment

/-- What is left of a text that has more than blanks begins and ends with a word. -/
theorem strip_ends {text : List Char} (spoken : ∃ char ∈ text, isBlank char = false) :
    Opens (strip text) ∧ Closes (strip text) := by
  have opens := opens_dropWhile ((isBlankLine_eq_false text).mpr spoken)
  exact ⟨opens.trimEnd fun _ solid => solid, closes_trimEnd opens.solid⟩

theorem joinLines_eq (comment : List Char) : joinLines comment = flowed comment := by
  by_cases blanks : ∀ char ∈ comment, isBlank char = true
  · have empty : strip comment = [] := Text.trim_eq_nil_iff.mpr blanks
    rw [joinLines, flowed, empty]
    -- The one empty paragraph is no line.
    simp [paragraphs, paragraphs.go, strip, trim, trimEnd, joinBreaks, joinBreaks.go, lineRuns,
      wordsBy, isBlankLine, stack]
  · -- The paragraphs are the runs of lines, each below the other, and each flows by itself.
    obtain ⟨opens, closes⟩ := strip_ends (by simpa using blanks)
    have whole : stack ((strip comment).splitOn '\n') = strip comment :=
      List.intercalate_splitOn '\n'
    have parted := paragraphs_stack (isTrimmed_splitOn opens closes)
    rw [whole] at parted
    have each : ∀ run ∈ lineRuns (strip comment), joinBreaks (strip (stack run)) = flow run :=
      fun run member => (isRun_of_mem_lineRuns member).joinBreaks_strip
    rw [joinLines, parted, List.map_map, flowed, ← List.map_congr_left each]
    rfl

/-- Joining lines leaves nothing only of blanks. -/
theorem joinLines_eq_nil_iff {comment : List Char} :
    joinLines comment = [] ↔ ∀ char ∈ comment, isBlank char = true := by
  rw [joinLines_eq]
  refine ⟨fun none => ?_, fun blanks => ?_⟩
  · have lost := words_flowed comment
    rw [none] at lost
    exact Text.wordsBy_eq_nil_iff.mp lost.symm
  · have empty : strip comment = [] := Text.trim_eq_nil_iff.mpr blanks
    rw [flowed, empty]
    rfl

theorem lineRuns_ne_nil {text : List Char} (opens : Opens text) (closes : Closes text) :
    lineRuns text ≠ [] := by
  have trimmed := isTrimmed_splitOn opens closes
  obtain ⟨line, rest, lines⟩ := List.exists_cons_of_ne_nil trimmed.filled
  rw [lineRuns, lines]
  exact Text.wordsBy_cons_ne_nil rest (trimmed.opens line (by simp [lines])).solid

/-- Joining the lines of a comment gives one line for each run of lines that are not blank. A
comment of blanks gives nothing. Each line of any other is filled and has no blanks around it, and
the words are those of the comment. -/
theorem joinLines_flows (comment : List Char) :
    joinLines comment = flowed comment ∧
    ((∀ char ∈ comment, isBlank char = true) → joinLines comment = []) ∧
    ((∃ char ∈ comment, isBlank char = false) →
      (joinLines comment).splitOn '\n' = (lineRuns (strip comment)).map flow ∧
      ∀ line ∈ (joinLines comment).splitOn '\n', IsLine line) ∧
    words (joinLines comment) = words comment := by
  refine ⟨joinLines_eq comment, joinLines_eq_nil_iff.mpr, fun spoken => ?_, ?_⟩
  · obtain ⟨opens, closes⟩ := strip_ends spoken
    have isLine : ∀ line ∈ (lineRuns (strip comment)).map flow, IsLine line :=
      List.forall_mem_map.mpr fun run member =>
        (isRun_of_mem_lineRuns member).trimEnds.1.isLine
    have lines : (joinLines comment).splitOn '\n' = (lineRuns (strip comment)).map flow := by
      rw [joinLines_eq]
      refine List.splitOn_intercalate '\n' (fun line member => (isLine line member).unbroken) ?_
      simpa using lineRuns_ne_nil opens closes
    exact ⟨lines, lines ▸ isLine⟩
  · rw [joinLines_eq, words_flowed]

example : joinLines " a\u00A0\t\n b\r\n \u2028\n\nc\n".toList = "a\u00A0 b\nc".toList := by
  cbv

end SchemaDoc.Comment
