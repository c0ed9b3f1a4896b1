import Mathlib.Order.Bounds.Basic
import SchemaDoc.Editing.Batch
import SchemaDoc.Proofs.Editing.Widening

/-!
# Display columns

The place that is found for a display column is the first one on its line that stands at the column
or beyond it, or the end of the line. Columns grow along a line, so every place is found again by
its own column, and a further column never leads to an earlier place. On a later line every place is
further on, but for line numbers behind the last line, which all mean the last one.

The walk to a column is an induction over the bytes of the line that are left, with the column
that has been reached; of what it passes it keeps nothing else.
-/
namespace SchemaDoc.Editing

open Text (Bytes)

/-! ### Columns -/

/-- The column behind one more byte: the next multiple of the tab width behind a tab, else one
more. -/
def nextColumn (tabWidth column : Nat) (byte : UInt8) : Nat :=
  if byte = tab then column + (tabWidth - column % tabWidth) else column + 1

/-- The display column behind some bytes of a line. -/
def displayColumn (tabWidth : Nat) (bytes : Bytes) : Nat :=
  bytes.foldl (nextColumn tabWidth) 0

/-- Where a line ends: at its newline, or at the end of the buffer. -/
def lineEnd (buffer : Bytes) (start : Nat) : Nat :=
  start + countWhile (· != newline) (buffer.drop start)

/-- A place on a line stands at a column or beyond it, or is the end of the line. -/
structure Reaches (buffer : Bytes) (tabWidth start : Nat) (column : Int) (place : Nat) : Prop where
  low : start ≤ place
  high : place ≤ lineEnd buffer start
  there : column ≤ displayColumn tabWidth ((buffer.take place).drop start) ∨
    place = lineEnd buffer start

variable {buffer : Bytes} {tabWidth start place : Nat}

/-- Behind a tab comes the least multiple of the tab width that is ahead. -/
theorem nextColumn_tab_isLeast (wide : 1 ≤ tabWidth) (column : Nat) :
    IsLeast {stop | column < stop ∧ tabWidth ∣ stop} (nextColumn tabWidth column tab) := by
  have rest := Nat.mod_lt column wide
  have whole := Nat.div_add_mod column tabWidth
  have found : nextColumn tabWidth column tab = tabWidth * (column / tabWidth + 1) := by
    rw [nextColumn, if_pos rfl, Nat.mul_succ]
    omega
  rw [found]
  refine ⟨⟨?_, Nat.dvd_mul_right _ _⟩, ?_⟩
  · rw [Nat.mul_succ]
    omega
  · rintro stop ⟨ahead, turn, rfl⟩
    -- A multiple that is no later than the last one passed is not ahead.
    apply Nat.mul_le_mul_left
    by_contra behind
    have bound := Nat.mul_le_mul_left tabWidth (Nat.lt_succ_iff.mp (Nat.lt_of_not_le behind))
    omega

theorem lt_nextColumn (wide : 1 ≤ tabWidth) (column : Nat) (byte : UInt8) :
    column < nextColumn tabWidth column byte := by
  rw [nextColumn]
  split
  · have rest := Nat.mod_lt column wide
    omega
  · exact Nat.lt_succ_self column

/-- The walk counts columns as they are defined. -/
theorem advance_natCast (tabWidth column : Nat) (byte : UInt8) (wide : 1 ≤ tabWidth) :
    advance tabWidth column byte = nextColumn tabWidth column byte := by
  rw [advance, nextColumn]
  by_cases stop : byte = tab
  · have rest := Nat.mod_lt column wide
    have whole := Nat.div_add_mod column tabWidth
    rw [if_pos (by simpa using stop), if_pos stop, ← Int.ofNat_fdiv]
    have next : (column / tabWidth + 1) * tabWidth = column + (tabWidth - column % tabWidth) := by
      rw [Nat.succ_mul, Nat.mul_comm]
      omega
    exact_mod_cast next
  · rw [if_neg (by simpa using stop), if_neg stop]
    rfl

theorem le_foldl_nextColumn (wide : 1 ≤ tabWidth) (bytes : Bytes) (column : Nat) :
    column + bytes.length ≤ bytes.foldl (nextColumn tabWidth) column := by
  induction bytes generalizing column with
  | nil => simp
  | cons byte rest ih =>
    have further := lt_nextColumn wide column byte
    have bound := ih (nextColumn tabWidth column byte)
    rw [List.foldl_cons, List.length_cons]
    omega

/-- Columns grow along a line. -/
theorem displayColumn_lt_append (wide : 1 ≤ tabWidth) {first second : Bytes}
    (more : second ≠ []) : displayColumn tabWidth first < displayColumn tabWidth (first ++ second) := by
  have bound := le_foldl_nextColumn wide second (displayColumn tabWidth first)
  have longer := List.length_pos_iff.mpr more
  rw [displayColumn, displayColumn, List.foldl_append]
  rw [displayColumn] at bound
  omega

/-! ### The walk to a column -/

/-- The walk stops at the first byte at the column or beyond it, or at the end of the line. -/
theorem bytesToColumn_isLeast (wide : 1 ≤ tabWidth) (column : Int) (bytes : Bytes) (reached : Nat) :
    IsLeast
      {count | count ≤ countWhile (· != newline) bytes ∧
        (column ≤ (bytes.take count).foldl (nextColumn tabWidth) reached ∨
          count = countWhile (· != newline) bytes)}
      (bytesToColumn tabWidth column reached bytes) := by
  induction bytes generalizing reached with
  | nil => exact ⟨⟨Nat.le_refl _, Or.inr rfl⟩, fun _ _ => Nat.zero_le _⟩
  | cons byte rest ih =>
    rw [bytesToColumn]
    split
    next passed =>
      -- The byte is on the line and before the column, so no stop is possible at it.
      simp only [Bool.and_eq_true, decide_eq_true_eq] at passed
      obtain ⟨inside, before⟩ := passed
      obtain ⟨⟨high, there⟩, least⟩ := ih (nextColumn tabWidth reached byte)
      rw [advance_natCast tabWidth reached byte wide]
      have line : countWhile (· != newline) (byte :: rest) =
          countWhile (· != newline) rest + 1 := by
        simp [countWhile, inside]
      rw [line]
      constructor
      · refine ⟨by omega, ?_⟩
        rw [Nat.add_comm 1, List.take_succ_cons, List.foldl_cons]
        exact there.imp id fun same => by rw [same]
      · rintro (_ | count) ⟨inner, stop⟩
        · rcases stop with stop | stop
          · simp only [List.take_zero, List.foldl_nil] at stop
            omega
          · omega
        · rw [List.take_succ_cons, List.foldl_cons] at stop
          have bound := least ⟨by omega, stop.imp id fun same => by omega⟩
          omega
    next stopped =>
      -- Either the line ends here or the column is reached.
      refine ⟨⟨Nat.zero_le _, ?_⟩, fun _ _ => Nat.zero_le _⟩
      simp only [Bool.and_eq_true, decide_eq_true_eq, not_and] at stopped
      by_cases inside : (byte != newline) = true
      · left
        simpa using stopped inside
      · right
        simp [countWhile, inside]

theorem take_drop_add (buffer : Bytes) (start count : Nat) :
    (buffer.take (start + count)).drop start = (buffer.drop start).take count := by
  rw [List.drop_take, Nat.add_sub_cancel_left]

/-- The place found for a column is the first one that reaches it. -/
theorem displayPositionFrom_isLeast (wide : 1 ≤ tabWidth) (buffer : Bytes) (start : Nat)
    (column : Int) :
    IsLeast {place | Reaches buffer tabWidth start column place}
      (displayPositionFrom buffer start column tabWidth) := by
  obtain ⟨⟨high, there⟩, least⟩ := bytesToColumn_isLeast wide column (buffer.drop start) 0
  rw [displayPositionFrom]
  constructor
  · refine ⟨Nat.le_add_right _ _, Nat.add_le_add_left high start, ?_⟩
    rw [take_drop_add]
    exact there.imp id fun last => by rw [lineEnd]; exact congrArg (start + ·) last
  · rintro place ⟨low, inside, reached⟩
    obtain ⟨count, rfl⟩ := Nat.exists_eq_add_of_le low
    rw [take_drop_add] at reached
    rw [lineEnd] at inside reached
    exact Nat.add_le_add_left
      (least ⟨by omega, reached.imp id fun last => Nat.add_left_cancel last⟩) start

/-- A tab width that is not zero leaves no column without a place. -/
theorem displayPositionFrom?_eq (wide : 1 ≤ tabWidth) (buffer : Bytes) (start : Nat)
    (column : Int) :
    displayPositionFrom? buffer start column tabWidth =
      some (displayPositionFrom buffer start column tabWidth) := by
  have nonzero : (tabWidth : Int) ≠ 0 := by omega
  rw [displayPositionFrom?, if_neg fun given => nonzero given.1]

/-! ### Places and their columns -/

/-- The place of a column that a place on the line has is that place. -/
theorem displayPositionFrom_column (wide : 1 ≤ tabWidth) (inside : place ≤ buffer.length)
    (low : start ≤ place) (high : place ≤ lineEnd buffer start) :
    displayPositionFrom buffer start
      (displayColumn tabWidth ((buffer.take place).drop start)) tabWidth = place := by
  apply (displayPositionFrom_isLeast wide buffer start _).unique
  refine ⟨⟨low, high, Or.inl (Int.le_refl _)⟩, ?_⟩
  rintro other ⟨above, _, reached⟩
  by_contra earlier
  rcases reached with reached | last
  · -- The bytes between the two places would move the column on.
    have grown : displayColumn tabWidth ((buffer.take other).drop start) <
        displayColumn tabWidth ((buffer.take place).drop start) := by
      rw [← take_drop_split buffer above (Nat.le_of_not_le earlier)]
      apply displayColumn_lt_append wide
      rw [Ne, List.drop_eq_nil_iff, List.length_take]
      omega
    omega
  · omega

/-- A further column never leads to an earlier place. -/
theorem displayPositionFrom_mono (wide : 1 ≤ tabWidth) (buffer : Bytes) (start : Nat)
    {column further : Int} (ahead : column ≤ further) :
    displayPositionFrom buffer start column tabWidth ≤
      displayPositionFrom buffer start further tabWidth := by
  obtain ⟨low, high, reached⟩ := (displayPositionFrom_isLeast wide buffer start further).1
  exact (displayPositionFrom_isLeast wide buffer start column).2
    ⟨low, high, reached.imp (Int.le_trans ahead) id⟩

/-- Columns never fall along a line. -/
theorem displayColumn_mono (wide : 1 ≤ tabWidth) (buffer : Bytes) {other : Nat}
    (low : start ≤ other) (high : other ≤ place) :
    displayColumn tabWidth ((buffer.take other).drop start) ≤
      displayColumn tabWidth ((buffer.take place).drop start) := by
  have bound := le_foldl_nextColumn wide ((buffer.take place).drop other)
    (displayColumn tabWidth ((buffer.take other).drop start))
  rw [displayColumn, ← List.foldl_append, take_drop_split buffer low high] at bound
  exact Nat.le_trans (Nat.le_add_right _ _) bound

/-- One column leads to an earlier place than another if and only if some byte of the line stands
at the one or beyond it and before the other. -/
theorem displayPositionFrom_lt_iff (wide : 1 ≤ tabWidth) (buffer : Bytes) (start : Nat)
    (column further : Int) :
    displayPositionFrom buffer start column tabWidth <
        displayPositionFrom buffer start further tabWidth ↔
      ∃ place, start ≤ place ∧ place < lineEnd buffer start ∧
        column ≤ displayColumn tabWidth ((buffer.take place).drop start) ∧
        displayColumn tabWidth ((buffer.take place).drop start) < further := by
  have one := displayPositionFrom_isLeast wide buffer start column
  have two := displayPositionFrom_isLeast wide buffer start further
  constructor
  · intro earlier
    obtain ⟨low, _, reached⟩ := one.1
    have inner := Nat.lt_of_lt_of_le earlier two.1.high
    refine ⟨_, low, inner, reached.resolve_right (Nat.ne_of_lt inner), ?_⟩
    -- If this place were at the other column already, that would lead no further.
    by_contra there
    have bound := two.2 ⟨low, Nat.le_of_lt inner, Or.inl (Int.not_lt.mp there)⟩
    omega
  · rintro ⟨place, low, inner, reached, short⟩
    have bound := one.2 ⟨low, Nat.le_of_lt inner, Or.inl reached⟩
    obtain ⟨above, _, there⟩ := two.1
    by_contra late
    -- The other column would be reached at this byte at the latest.
    have passed := there.resolve_right (by omega)
    have grown := displayColumn_mono wide buffer above
      (Nat.le_trans (Nat.le_of_not_lt late) bound)
    omega

/-! ### Places on different lines -/

/-- A later line starts behind the end of an earlier one. -/
theorem StartsLine.lineEnd_lt {line later next : Nat} (one : StartsLine buffer line start)
    (two : StartsLine buffer later next) (order : line < later) :
    lineEnd buffer start < next := by
  by_contra early
  have behind : start < next := by
    by_contra before
    have fewer := (List.take_sublist_take_left (l := buffer)
      (Nat.le_of_not_lt before)).count_le newline
    rw [one.newlines, two.newlines] at fewer
    omega
  -- The bytes from the one start to the other are all on one line, with no newline among them, so
  -- as many newlines are before both.
  have clear : newline ∉ (buffer.take next).drop start := by
    intro member
    have line := (allBetween_countWhile (· != newline) one.inside).2
    rw [← lineEnd, AllBetween, ← take_drop_split buffer (Nat.le_of_lt behind)
      (Nat.le_of_not_lt early)] at line
    have other := line newline (List.mem_append_left _ member)
    simp at other
  have total := count_newline_take buffer (Nat.le_of_lt behind)
  rw [one.newlines, two.newlines, List.count_eq_zero.mpr clear] at total
  omega

/-- Every place is on the line that starts before it. -/
theorem le_lineEnd_lineStart (inside : place ≤ buffer.length) :
    place ≤ lineEnd buffer (lineStart buffer place) := by
  have low := lineStart_le inside
  have clear := newline_notMem_slice_lineStart inside
  rw [slice_natCast (by omega) inside] at clear
  obtain ⟨count, same⟩ := Nat.exists_eq_add_of_le low
  -- The bytes up to the place are the first ones of the line, and none of them ends it.
  have split := List.take_append_drop count (buffer.drop (lineStart buffer place))
  rw [← take_drop_add, ← same] at split
  rw [lineEnd, countWhile, ← split, List.takeWhile_append_of_pos, List.length_append,
    List.length_drop, List.length_take]
  · omega
  · intro byte member
    have other : byte ≠ newline := fun equal => clear (equal ▸ member)
    simpa using other

/-- The last line ends with the buffer. -/
theorem lineEnd_last (buffer : Bytes) :
    lineEnd buffer (lineStart buffer buffer.length) = buffer.length := by
  apply Nat.le_antisymm
  · exact (allBetween_countWhile (· != newline) (lineStart_le (Nat.le_refl _))).1
  · exact le_lineEnd_lineStart (Nat.le_refl _)

/-- Every line number from the last one on means the last line. -/
theorem startOfLine_last (buffer : Bytes) {line : Int}
    (last : (buffer.count newline : Int) ≤ line) :
    startOfLine buffer line = lineStart buffer buffer.length := by
  have found := startsLine_startOfLine buffer line
  have known := startsLine_lineStart (Nat.le_refl buffer.length)
  have same : clampTo (buffer.count newline) line = buffer.count newline := by
    rw [clampTo]
    omega
  rw [List.take_length] at known
  rw [same] at found
  exact found.unique known

/-- A place on a line that is not the last one is before every place on a later line. -/
theorem displayPosition_lt (wide : 1 ≤ tabWidth) (buffer : Bytes) {line later : Int}
    (inside : line < buffer.count newline) (order : line < later) (positive : 0 ≤ line)
    (column column' : Int) :
    displayPosition buffer line column tabWidth < displayPosition buffer later column' tabWidth := by
  have one := startsLine_startOfLine buffer line
  have two := startsLine_startOfLine buffer later
  have apart : clampTo (buffer.count newline) line < clampTo (buffer.count newline) later := by
    simp only [clampTo]
    omega
  calc displayPosition buffer line column tabWidth
      ≤ lineEnd buffer (startOfLine buffer line) :=
        (displayPositionFrom_isLeast wide buffer (startOfLine buffer line) column).1.high
    _ < startOfLine buffer later := one.lineEnd_lt two apart
    _ ≤ displayPosition buffer later column' tabWidth := Nat.le_add_right _ _

/-- In every text, with every tab width from one on: a column of a line leads to the first place
between the start and the end of the line that stands at the column or beyond it, or to the end of
the line if there is none; every place is where the column that it has on its line leads to; and a
further column never leads to an earlier place. -/
theorem displayPosition?_isLeast (text : List Char) {tabWidth : Nat} (wide : 1 ≤ tabWidth) :
    let editor := Editor.ofText text
    let found (line column : Int) := editor.displayPosition? line column tabWidth
    (∀ line ≤ editor.buffer.count newline, ∃ start, StartsLine editor.buffer line start ∧
      ∀ column, ∃ place, found line column = some place ∧
        IsLeast {place | Reaches editor.buffer tabWidth start column place} place) ∧
    (∀ place ≤ editor.buffer.length, ∃ line start, StartsLine editor.buffer line start ∧
      start ≤ place ∧ place ≤ lineEnd editor.buffer start ∧
      found line (displayColumn tabWidth ((editor.buffer.take place).drop start)) = some place) ∧
    ∀ line column further, column ≤ further → ∃ place later,
      found line column = some place ∧ found line further = some later ∧ place ≤ later := by
  intro editor found
  have eq (line column : Int) : found line column =
      some (displayPositionFrom editor.buffer (startOfLine editor.buffer line) column tabWidth) :=
    displayPositionFrom?_eq wide _ _ _
  refine ⟨?_, ?_, ?_⟩
  · intro line known
    refine ⟨startOfLine editor.buffer line, ?_, fun column => ⟨_, eq line column, ?_⟩⟩
    · exact startsLine_of_le known
    · exact displayPositionFrom_isLeast wide _ _ _
  · intro place inside
    have starts := startsLine_lineStart inside
    have known := (List.take_sublist place editor.buffer).count_le newline
    have end' := le_lineEnd_lineStart inside
    refine ⟨_, _, starts, lineStart_le inside, end', ?_⟩
    rw [eq, (startsLine_of_le known).unique starts,
      displayPositionFrom_column wide inside (lineStart_le inside) end']
  · intro line column further ahead
    exact ⟨_, _, eq line column, eq line further, displayPositionFrom_mono wide _ _ ahead⟩

/-- A column inside a tab leads to the byte behind it. -/
theorem displayPosition?_insideTab :
    1 ≤ 4 ∧ (Editor.ofText ['x', '\t', 'é', '\n']).displayPosition? 0 2 4 = some 2 ∧
      IsLeast {place | Reaches (Text.encode ['x', '\t', 'é', '\n']) 4 0 2 place} 2 := by
  have found : (Editor.ofText ['x', '\t', 'é', '\n']).displayPosition? 0 2 4 = some 2 := by
    decide
  refine ⟨by decide, found, ?_⟩
  obtain ⟨leads, _, _⟩ :=
    displayPosition?_isLeast ['x', '\t', 'é', '\n'] (by decide : 1 ≤ 4)
  obtain ⟨start, starts, reached⟩ := leads 0 (Nat.zero_le _)
  obtain rfl := starts.unique ⟨Nat.zero_le _, rfl, Or.inl rfl⟩
  obtain ⟨place, same, least⟩ := reached 2
  obtain rfl := Option.some.inj (same.symm.trans found)
  exact least

end SchemaDoc.Editing
