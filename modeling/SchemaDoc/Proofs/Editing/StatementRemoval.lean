import SchemaDoc.Proofs.Editing.Widening

/-!
# Removing a statement

A statement that has its lines for itself is removed from the start of its first line to the end
of the blank lines behind it, so the next line keeps its indentation. Any other statement takes the
spaces and tabs behind it along, and no line break.
-/
namespace SchemaDoc.Editing

open Text (Bytes isBlankByte)

variable {buffer : Bytes} {start stop place : Nat}

/-- `last` is right behind the last newline of the blanks between two places, and is the start of
the line on which the second of these is. -/
structure EndsBlankLines (buffer : Bytes) (stop close last : Nat) : Prop where
  behind : stop < last
  within : last ≤ close
  newlined : buffer[last - 1]? = some newline
  final : newline ∉ (buffer.take close).drop last
  next : lineStart buffer close = last

/-- A line starts behind a newline if no other one is between it and a place. -/
theorem lineStart_eq {last close : Nat} (within : last ≤ close) (inside : close ≤ buffer.length)
    (newlined : buffer[last - 1]? = some newline)
    (final : newline ∉ (buffer.take close).drop last) : lineStart buffer close = last := by
  apply (startsLine_lineStart inside).unique
  refine ⟨Nat.le_trans within inside, ?_, Or.inr newlined⟩
  rw [count_newline_take buffer within, List.count_eq_zero.mpr final, Nat.add_zero]

/-- Blanks without a newline may be added before those whose last newline is looked for. -/
theorem newline_mem_iff_of_inline {middle close : Nat} (order : stop ≤ middle)
    (onward : middle ≤ close) (inline : AllBetween isInlineBlank buffer stop middle) :
    newline ∈ (buffer.take close).drop stop ↔ newline ∈ (buffer.take close).drop middle := by
  have clear : newline ∉ (buffer.take middle).drop stop := by
    intro member
    have space := inline newline member
    revert space
    decide
  rw [← take_drop_split buffer order onward, List.mem_append]
  exact or_iff_right clear

/-- Blank lines end behind the last newline of the longest run of blanks, or with it. -/
theorem blankLinesEnd_eq {middle close : Nat} (inside : middle ≤ buffer.length)
    (run : LongestRun isBlankByte buffer middle close) :
    (newline ∈ (buffer.take close).drop middle →
      EndsBlankLines buffer middle close (blankLinesEnd buffer middle)) ∧
    (newline ∉ (buffer.take close).drop middle → blankLinesEnd buffer middle = close) := by
  have same := (longestRun_countWhile isBlankByte inside).unique run
  have order := run.order
  have limit := run.inside
  simp only [blankLinesEnd, same]
  split
  next place found =>
    obtain ⟨bound, stands, clear⟩ := lastNewline?_eq_some found
    rw [List.length_drop, List.length_take] at bound
    rw [List.getElem?_drop, List.getElem?_take_of_lt (by omega)] at stands
    rw [List.drop_drop, ← Nat.add_assoc] at clear
    constructor
    · intro _
      exact ⟨by omega, by omega, stands, clear, lineStart_eq (by omega) limit stands clear⟩
    · intro absent
      rw [lastNewline?_eq_none.mpr absent] at found
      cases found
  next absent => exact ⟨fun member => absurd member (lastNewline?_eq_none.mp absent), fun _ => rfl⟩

theorem Region.between_inj {first last first' last' : Nat}
    (same : Region.between first last = .between first' last') : first = first' ∧ last = last' := by
  simp only [Region.between, Region.mk.injEq] at same
  omega

/-- Widening a statement inside the buffer keeps it there and takes only blanks. If the statement
fills its lines, it goes from the start of its line to the end of the blank lines behind it, and
the next line is left whole. Otherwise only the spaces and tabs behind it go, all of them. -/
theorem widenStatement_takesLines {start length : Nat} (inside : start + length ≤ buffer.length) :
    ∃ first last,
      widenStatement buffer { start := start, length := length } = .between first last ∧
      Grows isBlankByte buffer start (start + length) first last ∧
      (FillsLines buffer start (start + length) →
        first = lineStart buffer start ∧
        ∀ close, LongestRun isBlankByte buffer (start + length) close →
          (newline ∈ (buffer.take close).drop (start + length) →
            EndsBlankLines buffer (start + length) close last) ∧
          (newline ∉ (buffer.take close).drop (start + length) → last = close)) ∧
      (¬ FillsLines buffer start (start + length) →
        first = start ∧ LongestRun isInlineBlank buffer (start + length) last) := by
  have low : start ≤ buffer.length := by omega
  have same : ({ start := start, length := length } : Region) =
      .between start (start + length) := by
    simp only [Region.between, Region.mk.injEq, true_and]
    omega
  rw [same]
  generalize start + length = stop at *
  obtain ⟨filling, sharing⟩ := widenStatement_between low inside
  obtain ⟨first, last, found, grows⟩ := widenStatement_grows low inside
  have run := longestRun_countWhile isInlineBlank inside
  refine ⟨first, last, found, grows, fun fills => ?_, fun shared => ?_⟩
  · rw [filling fills] at found
    obtain ⟨rfl, rfl⟩ := Region.between_inj found
    refine ⟨rfl, fun close blanks => ?_⟩
    generalize stop + countWhile isInlineBlank (buffer.drop stop) = middle at *
    -- The blanks go on behind the spaces and tabs, which are blanks, too.
    have onward : middle ≤ close := by
      by_contra beyond
      have inner : Holds isInlineBlank buffer close :=
        run.all.holds run.inside (by have := blanks.order; omega) (by omega)
      obtain ⟨byte, shown, passes⟩ := holds_natCast.mp inner
      have solid := blanks.ended byte shown
      rw [isBlankByte_of_isInlineBlank byte passes] at solid
      cases solid
    have rest : LongestRun isBlankByte buffer middle close := by
      refine ⟨onward, blanks.inside, fun byte member => blanks.all byte ?_, blanks.ended⟩
      exact (List.drop_subset_drop_left _ run.order) member
    obtain ⟨broken, unbroken⟩ := blankLinesEnd_eq run.inside rest
    rw [newline_mem_iff_of_inline run.order onward run.all]
    refine ⟨fun member => ?_, unbroken⟩
    obtain ⟨behind, within, newlined, final, next⟩ := broken member
    exact ⟨Nat.lt_of_le_of_lt run.order behind, within, newlined, final, next⟩
  · rw [sharing shared] at found
    obtain ⟨rfl, rfl⟩ := Region.between_inj found
    exact ⟨rfl, run⟩

/-- A statement on two lines, with a form feed on the blank line behind it. -/
def spreadStatement : Bytes :=
  Text.encode "a;\n\t b\n c; \t\x0D\n \x0C\n  d".toList

/-- Both lines of the statement go, and the blank line behind them. -/
theorem widenStatement_takesLines_spread :
    5 + 5 ≤ spreadStatement.length ∧ FillsLines spreadStatement 5 (5 + 5) ∧
    LongestRun isBlankByte spreadStatement (5 + 5) 19 ∧
    newline ∈ (spreadStatement.take 19).drop (5 + 5) ∧
    ∃ last, widenStatement spreadStatement { start := 5, length := 5 } = .between 3 last ∧
      EndsBlankLines spreadStatement (5 + 5) 19 last := by
  have inside : 5 + 5 ≤ spreadStatement.length := by decide
  have alone : AllBetween isBlankByte spreadStatement (lineStart spreadStatement (5 : Nat)) 5 :=
    List.all_eq_true.mp (by decide)
  have fills : FillsLines spreadStatement 5 (5 + 5) :=
    (fillsLines_iff inside).mpr ⟨alone, by unfold EndsLine; decide⟩
  have run : LongestRun isBlankByte spreadStatement (5 + 5) 19 :=
    longestRun_countWhile isBlankByte inside
  have broken : newline ∈ (spreadStatement.take 19).drop (5 + 5) := by decide
  obtain ⟨first, last, found, _, filling, _⟩ := widenStatement_takesLines inside
  obtain ⟨line, ending⟩ := filling fills
  have begins : lineStart spreadStatement (5 : Nat) = 3 := by decide
  rw [line, begins] at found
  exact ⟨inside, fills, run, broken, last, found, (ending 19 run).1 broken⟩

end SchemaDoc.Editing
