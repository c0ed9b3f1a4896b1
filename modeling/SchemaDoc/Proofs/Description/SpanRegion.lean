import SchemaDoc.Proofs.Description.Restoration
import SchemaDoc.Proofs.Editing.DisplayColumn

/-!
# Where the ends of a span are put

Both ends of a span are moved into the source, each for itself: a line behind the last one means
the last line, and a column behind the end of a line means that end. The order of the ends survives
on one line and between different lines. It can be lost only where the move makes one line of two,
which is the last line, and there the columns decide.
-/
namespace SchemaDoc.Description

open Descriptor (Location Span)
open Editing
open Text (Bytes encode)

/-- The display column of a place on the last line. -/
def lastLineColumn (buffer : Bytes) (place : Nat) : Nat :=
  displayColumn defaultTabWidth.toNat ((buffer.take place).drop (lineStart buffer buffer.length))

/-- A span starts on the last line or behind it and ends on a line that is still further, and some
byte of the last line stands at the column of its end or beyond it and before that of its start. -/
structure FoldsBack (buffer : Bytes) (span : Span) : Prop where
  start : (buffer.count newline : Int) ≤ span.startLine
  stop : span.startLine < span.endLine
  columns : ∃ place, lineStart buffer buffer.length ≤ place ∧ place < buffer.length ∧
    span.endColumn ≤ lastLineColumn buffer place ∧ lastLineColumn buffer place < span.startColumn

theorem one_le_defaultTabWidth : 1 ≤ defaultTabWidth.toNat := by decide

theorem ends_of_isWellFormed {span : Span} (formed : span.isWellFormed = true) :
    0 ≤ span.startLine ∧ (span.startLine < span.endLine ∨
      span.startLine = span.endLine ∧ span.startColumn ≤ span.endColumn) := by
  simp only [Span.isWellFormed, Bool.and_eq_true, Bool.or_eq_true, decide_eq_true_eq,
    beq_iff_eq] at formed
  exact ⟨formed.1.1.1.1, formed.2⟩

/-- The end of an ordered span is put before its start if and only if the span folds back. -/
theorem spanStop_lt_spanStart_iff (buffer : Bytes) {span : Span}
    (formed : span.isWellFormed = true) :
    displayPosition buffer span.endLine span.endColumn defaultTabWidth < spanStart buffer span ↔
      FoldsBack buffer span := by
  obtain ⟨positive, later | ⟨same, further⟩⟩ := ends_of_isWellFormed formed
  · by_cases inside : span.startLine < buffer.count newline
    · -- The line of the start is before the one that the end is put on, whichever that is.
      have ahead := displayPosition_lt one_le_defaultTabWidth buffer inside later positive
        span.startColumn span.endColumn
      refine iff_of_false (Nat.not_lt.mpr (Nat.le_of_lt ahead)) fun back => ?_
      exact absurd back.start (Int.not_le.mpr inside)
    · -- Both ends are put on the last line, and only their columns count.
      have last := Int.not_lt.mp inside
      have columns := displayPositionFrom_lt_iff one_le_defaultTabWidth buffer
        (lineStart buffer buffer.length) span.endColumn span.startColumn
      rw [lineEnd_last] at columns
      rw [spanStart, displayPosition, displayPosition, startOfLine_last buffer last,
        startOfLine_last buffer (Int.le_trans last (Int.le_of_lt later))]
      apply columns.trans
      exact ⟨fun between => ⟨last, later, between⟩, fun back => back.columns⟩
  · -- On one line a further column leads to no earlier place.
    have ahead := displayPositionFrom_mono one_le_defaultTabWidth buffer
      (startOfLine buffer span.startLine) further
    rw [← same]
    refine iff_of_false (Nat.not_lt.mpr ahead) fun back => ?_
    exact absurd same (Int.ne_of_lt back.stop)

/-- Wherever an ordered span leads, both ends of its region are places of the source, and the
region has a negative length if and only if the span folds back onto the last line. -/
theorem spanRegion_length_neg_iff (buffer : Bytes) {location : Location} {span : Span}
    (accepted : location.span? = some span) :
    let region := spanRegion buffer span
    0 ≤ region.start ∧ region.start ≤ buffer.length ∧
      0 ≤ region.start + region.length ∧ region.start + region.length ≤ buffer.length ∧
      (region.length < 0 ↔ FoldsBack buffer span) := by
  intro region
  have start : region.start = spanStart buffer span := rfl
  have stop : region.start + region.length =
      displayPosition buffer span.endLine span.endColumn defaultTabWidth := by
    simp only [region, spanRegion]
    omega
  have low : spanStart buffer span ≤ buffer.length := displayPosition_le _ _ _ _
  have high := displayPosition_le buffer span.endLine span.endColumn defaultTabWidth
  have back := spanStop_lt_spanStart_iff buffer (Span.ofNumbers?_wellFormed accepted)
  refine ⟨by omega, by omega, by omega, by omega, ?_⟩
  rw [← back]
  omega

/-- A span that starts before the last line and ends behind it keeps its order. -/
theorem spanRegion_length_neg_iff_spread :
    (⟨[4, 0], [0, 3, 7, 2], none, none⟩ : Location).span? = some ⟨0, 3, 7, 2⟩ ∧
      spanRegion (encode "a\tb\n cd".toList) ⟨0, 3, 7, 2⟩ = { start := 2, length := 4 } ∧
      ¬ FoldsBack (encode "a\tb\n cd".toList) ⟨0, 3, 7, 2⟩ := by
  have accepted : (⟨[4, 0], [0, 3, 7, 2], none, none⟩ : Location).span? =
      some ⟨0, 3, 7, 2⟩ := rfl
  have region : spanRegion (encode "a\tb\n cd".toList) ⟨0, 3, 7, 2⟩ =
      { start := 2, length := 4 } := by decide
  refine ⟨accepted, region, fun back => ?_⟩
  have negative := (spanRegion_length_neg_iff _ accepted).2.2.2.2.mpr back
  rw [region] at negative
  exact absurd negative (by decide)

/-- A source of one line. -/
def singleLineSource : List Char := "message M \x7b\x7d  ".toList

/-- A location whose span starts behind the line of `singleLineSource` and ends further behind. -/
def strayLocation : Location where
  path := [4, 0, 7, 1000]
  span := [1, 12, 2, 0]
  leading := none
  trailing := none

/-- Moving the ends of an ordered span into the source can put them in the wrong order. -/
theorem spanRegion_reversed :
    strayLocation.span? = some ⟨1, 12, 2, 0⟩ ∧
      spanRegion (encode singleLineSource) ⟨1, 12, 2, 0⟩ = { start := 12, length := -12 } ∧
      ¬ ∀ (source : List Char) (location : Location) (span : Span), location.span? = some span →
        0 ≤ (spanRegion (encode source) span).length ∧
          (spanRegion (encode source) span).start + (spanRegion (encode source) span).length ≤
            (encode source).length := by
  have accepted : strayLocation.span? = some ⟨1, 12, 2, 0⟩ := rfl
  have region : spanRegion (encode singleLineSource) ⟨1, 12, 2, 0⟩ =
      { start := 12, length := -12 } := by decide
  refine ⟨accepted, region, fun ordered => ?_⟩
  have positive := (ordered singleLineSource strayLocation _ accepted).1
  rw [region] at positive
  exact absurd positive (by decide)

end SchemaDoc.Description
