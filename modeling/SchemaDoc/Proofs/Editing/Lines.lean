import Mathlib.Data.List.Basic
import Mathlib.Tactic.Common
import SchemaDoc.Editing.Buffer

/-!
# Lines and places

Places that are found by line and column never leave the buffer. The line of a place starts at or
before it, and no line ends between the two.
-/
namespace SchemaDoc.Editing

open Text (Bytes)

theorem slice_natCast {buffer : Bytes} {start stop : Nat} (low : start ≤ buffer.length)
    (high : stop ≤ buffer.length) : slice buffer start stop = (buffer.take stop).drop start := by
  rw [slice, clip_of_le low, clip_of_le high]

theorem sliceFrom_natCast {buffer : Bytes} {start : Nat} (low : start ≤ buffer.length) :
    sliceFrom buffer start = buffer.drop start := by
  rw [sliceFrom, clip_of_le low]

theorem sliceTo_natCast {buffer : Bytes} {stop : Nat} (high : stop ≤ buffer.length) :
    sliceTo buffer stop = buffer.take stop := by
  rw [sliceTo, clip_of_le high]

/-! ### Parts of a buffer -/

/-- Before a place is what is before an earlier one, and then what is between the two. -/
theorem take_split (buffer : Bytes) {place other : Nat} (order : place ≤ other) :
    buffer.take place ++ (buffer.take other).drop place = buffer.take other := by
  have split := List.take_append_drop place (buffer.take other)
  rwa [List.take_take, Nat.min_eq_left order] at split

/-- Between two places is what is up to a third one between them, and then what is behind that. -/
theorem take_drop_split (buffer : Bytes) {start place other : Nat} (low : start ≤ other)
    (high : other ≤ place) :
    (buffer.take other).drop start ++ (buffer.take place).drop other =
      (buffer.take place).drop start := by
  have split := List.take_append_drop (other - start) ((buffer.take place).drop start)
  rw [List.drop_drop, Nat.add_sub_cancel' low] at split
  rw [← split, List.take_drop, Nat.add_sub_cancel' low, List.take_take, Nat.min_eq_left high]

theorem count_newline_take (buffer : Bytes) {place other : Nat} (order : place ≤ other) :
    (buffer.take other).count newline =
      (buffer.take place).count newline + ((buffer.take other).drop place).count newline := by
  rw [← List.count_append, take_split buffer order]

/-! ### Line starts -/

theorem startsFrom_eq (offset : Nat) (bytes : Bytes) :
    startsFrom offset bytes = (bytes.idxsOf newline offset).map (· + 1) := by
  induction bytes generalizing offset with
  | nil => rfl
  | cons byte rest ih =>
    rw [startsFrom, List.idxsOf_cons, ih]
    split <;> rfl

/-- Lines start at the start of the buffer and right behind each newline. -/
theorem lineStarts_eq (buffer : Bytes) :
    lineStarts buffer = 0 :: (buffer.idxsOf newline).map (· + 1) := by
  rw [lineStarts, startsFrom_eq]

theorem length_lineStarts (buffer : Bytes) :
    (lineStarts buffer).length = buffer.count newline + 1 := by
  rw [lineStarts_eq, List.length_cons, List.length_map, List.length_idxsOf]

theorem lineStarts_ascending (buffer : Bytes) : (lineStarts buffer).Pairwise (· < ·) := by
  rw [lineStarts_eq, List.pairwise_cons]
  constructor
  · intro place member
    obtain ⟨before, _, rfl⟩ := List.mem_map.mp member
    exact Nat.succ_pos before
  · rw [List.pairwise_map]
    exact List.pairwise_idxsOf.imp fun before => Nat.succ_lt_succ before

/-- A line starts at a place: as many newlines are before it as there are lines, and the last of
them right before it. -/
structure StartsLine (buffer : Bytes) (line place : Nat) : Prop where
  inside : place ≤ buffer.length
  newlines : (buffer.take place).count newline = line
  fresh : place = 0 ∨ buffer[place - 1]? = some newline

/-- Before each newline stand as many others as come before it among all of them. -/
theorem count_take_idxsOf (bytes : Bytes) (offset turn : Nat)
    (listed : turn < (bytes.idxsOf newline offset).length) :
    (bytes.take ((bytes.idxsOf newline offset)[turn] - offset)).count newline = turn := by
  induction bytes generalizing offset turn with
  | nil => simp at listed
  | cons byte rest ih =>
    -- What is found in the rest stands behind this byte, so the bytes before it include this one.
    have behind (turn : Nat) (listed : turn < (rest.idxsOf newline (offset + 1)).length) :
        ((byte :: rest).take ((rest.idxsOf newline (offset + 1))[turn] - offset)).count newline =
          turn + if byte == newline then 1 else 0 := by
      have low := List.le_getElem_idxsOf listed
      have step : (rest.idxsOf newline (offset + 1))[turn] - offset =
          (rest.idxsOf newline (offset + 1))[turn] - (offset + 1) + 1 := by omega
      rw [step, List.take_succ_cons, List.count_cons, ih (offset + 1) turn listed]
    by_cases here : byte == newline
    · simp only [List.idxsOf_cons, here, if_true] at listed behind ⊢
      cases turn with
      | zero => simp
      | succ turn =>
        rw [List.getElem_cons_succ]
        exact behind turn (Nat.lt_of_succ_lt_succ listed)
    · simp only [List.idxsOf_cons, here, Bool.false_eq_true, if_false] at listed behind ⊢
      exact behind turn listed

theorem startsLine_getElem {buffer : Bytes} {line : Nat}
    (listed : line < (lineStarts buffer).length) :
    StartsLine buffer line (lineStarts buffer)[line] := by
  simp only [lineStarts_eq] at listed ⊢
  cases line with
  | zero => exact ⟨by simp, by simp, Or.inl rfl⟩
  | succ turn =>
    rw [List.length_cons, List.length_map] at listed
    have found := Nat.lt_of_succ_lt_succ listed
    have inside := List.getElem_idxsOf_lt found
    have before := count_take_idxsOf buffer 0 turn found
    have stands := List.getElem_getElem_idxsOf_sub_of_lawful 0 found
    simp only [Nat.sub_zero, Nat.add_zero] at inside before stands
    rw [List.getElem_cons_succ, List.getElem_map]
    refine ⟨inside, ?_, Or.inr ?_⟩
    · rw [List.take_add_one, List.count_append, before, List.getElem?_eq_getElem inside, stands]
      simp
    · rw [Nat.add_sub_cancel, List.getElem?_eq_getElem inside, stands]

theorem StartsLine.le_of_eq {buffer : Bytes} {line place other : Nat}
    (one : StartsLine buffer line place) (two : StartsLine buffer line other) : other ≤ place := by
  by_contra beyond
  -- The newline right before the later place stands behind the earlier one, and is one too many.
  have clear : newline ∉ (buffer.take other).drop place := by
    have total := count_newline_take buffer (Nat.le_of_not_le beyond)
    rw [one.newlines, two.newlines] at total
    exact List.count_eq_zero.mp (by omega)
  rcases two.fresh with start | fresh
  · omega
  · apply clear
    rw [List.mem_iff_getElem?]
    refine ⟨other - 1 - place, ?_⟩
    rw [List.getElem?_drop, List.getElem?_take_of_lt (by omega), ← fresh]
    congr 1
    omega

theorem StartsLine.unique {buffer : Bytes} {line place other : Nat}
    (one : StartsLine buffer line place) (two : StartsLine buffer line other) : place = other :=
  Nat.le_antisymm (two.le_of_eq one) (one.le_of_eq two)

/-- Whatever the number of a line, the place found for it is the start of some line. -/
theorem startsLine_startOfLine (buffer : Bytes) (line : Int) :
    StartsLine buffer (clampTo (buffer.count newline) line) (startOfLine buffer line) := by
  have listed : clampTo (buffer.count newline) line < (lineStarts buffer).length := by
    rw [length_lineStarts, clampTo]
    omega
  rw [startOfLine, startAmong, length_lineStarts, Nat.add_sub_cancel, List.getD_eq_getElem?_getD,
    List.getElem?_eq_getElem listed, Option.getD_some]
  exact startsLine_getElem listed

theorem startsLine_of_le {buffer : Bytes} {line : Nat} (known : line ≤ buffer.count newline) :
    StartsLine buffer line (startOfLine buffer line) := by
  have found := startsLine_startOfLine buffer line
  have same : clampTo (buffer.count newline) line = line := by
    rw [clampTo]
    omega
  rwa [same] at found

theorem startOfLine_le (buffer : Bytes) (line : Int) :
    startOfLine buffer line ≤ buffer.length :=
  (startsLine_startOfLine buffer line).inside

theorem bytesToColumn_le (tabWidth target column : Int) (bytes : Bytes) :
    bytesToColumn tabWidth target column bytes ≤ bytes.length := by
  induction bytes generalizing column with
  | nil => exact Nat.le_refl _
  | cons byte rest ih =>
    rw [bytesToColumn, List.length_cons]
    split
    · have bound := ih (advance tabWidth column byte)
      omega
    · exact Nat.zero_le _

theorem displayPosition_le (buffer : Bytes) (line column tabWidth : Int) :
    displayPosition buffer line column tabWidth ≤ buffer.length := by
  have start := startOfLine_le buffer line
  have passed := bytesToColumn_le tabWidth column 0 (buffer.drop (startOfLine buffer line))
  rw [List.length_drop] at passed
  simp only [displayPosition, displayPositionFrom]
  omega

/-! ### The line of a place -/

theorem lastNewline?_eq_none {bytes : Bytes} :
    lastNewline? bytes = none ↔ newline ∉ bytes := by
  induction bytes with
  | nil => simp [lastNewline?]
  | cons byte rest ih =>
    rw [lastNewline?]
    cases found : lastNewline? rest with
    | some place =>
      -- A newline further on answers the question, whatever this byte is.
      have inside : newline ∈ rest := by
        by_contra absent
        rw [ih.mpr absent] at found
        cases found
      simp [inside]
    | none =>
      have absent := ih.mp found
      by_cases here : byte = newline
      · simp [here]
      · simp [here, absent, Ne.symm here]

/-- The last newline stands at the place that is found, and none after it. -/
theorem lastNewline?_eq_some {bytes : Bytes} {place : Nat}
    (found : lastNewline? bytes = some place) :
    place < bytes.length ∧ bytes[place]? = some newline ∧ newline ∉ bytes.drop (place + 1) := by
  induction bytes generalizing place with
  | nil => simp [lastNewline?] at found
  | cons byte rest ih =>
    rw [lastNewline?] at found
    split at found
    next inner same =>
      simp only [Option.some.injEq] at found
      subst found
      obtain ⟨inside, stands, last⟩ := ih same
      exact ⟨by simpa using inside, by simpa using stands, by simpa using last⟩
    next absent =>
      split at found
      next here =>
        simp only [Option.some.injEq] at found
        subst found
        refine ⟨by simp, by simpa using here, ?_⟩
        simpa using lastNewline?_eq_none.mp absent
      next => simp at found

theorem lineStart_le {buffer : Bytes} {place : Nat} (inside : place ≤ buffer.length) :
    lineStart buffer place ≤ place := by
  rw [lineStart, sliceTo_natCast inside]
  split
  next last found =>
    have bound := (lastNewline?_eq_some found).1
    rw [List.length_take] at bound
    omega
  next => exact Nat.zero_le _

/-- No line ends between the start of a line and a place on it. -/
theorem newline_notMem_slice_lineStart {buffer : Bytes} {place : Nat}
    (inside : place ≤ buffer.length) :
    newline ∉ slice buffer (lineStart buffer place) place := by
  have low := Nat.le_trans (lineStart_le inside) inside
  rw [slice_natCast low inside, lineStart, sliceTo_natCast inside]
  split
  next last found => exact (lastNewline?_eq_some found).2.2
  next absent => exact lastNewline?_eq_none.mp absent

/-- The line of a place starts where the line with so many newlines before it does. -/
theorem startsLine_lineStart {buffer : Bytes} {place : Nat} (inside : place ≤ buffer.length) :
    StartsLine buffer ((buffer.take place).count newline) (lineStart buffer place) := by
  rw [lineStart, sliceTo_natCast inside]
  split
  next last found =>
    obtain ⟨before, stands, clear⟩ := lastNewline?_eq_some found
    rw [List.length_take] at before
    refine ⟨by omega, ?_, Or.inr ?_⟩
    · rw [count_newline_take buffer (by omega : last + 1 ≤ place), List.count_eq_zero.mpr clear]
      rfl
    · rwa [Nat.add_sub_cancel, ← List.getElem?_take_of_lt (by omega : last < place)]
  next absent =>
    refine ⟨Nat.zero_le _, ?_, Or.inl rfl⟩
    rw [List.count_eq_zero.mpr (lastNewline?_eq_none.mp absent)]
    rfl

end SchemaDoc.Editing
