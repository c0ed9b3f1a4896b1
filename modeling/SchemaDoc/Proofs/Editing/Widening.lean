import SchemaDoc.Editing.Region
import SchemaDoc.Proofs.Editing.Lines
import SchemaDoc.Proofs.Editing.Splice

/-!
# What widening takes

A region that is to be deleted is widened, and regions of one list are joined before that. Both
only take more: every byte of a region stays in what comes of it, and every byte taken on top is a
blank, a comma or a bracket. This holds for every region inside the buffer, also for one whose end
lies before its start.
-/
namespace SchemaDoc.Editing

open Text (Bytes isBlankByte trimEnd)

/-- The region from one place up to another; it is empty if they are in the wrong order. -/
def Region.between (start stop : Nat) : Region :=
  { start := start, length := (stop : Int) - start }

/-- Whether a place lies in a region. -/
def Region.Covers (region : Region) (place : Int) : Prop :=
  region.start ≤ place ∧ place < region.stop

/-- Both ends of a region are places of the buffer. -/
def Region.Within (region : Region) (buffer : Bytes) : Prop :=
  ∃ start stop : Nat, region = .between start stop ∧ start ≤ buffer.length ∧
    stop ≤ buffer.length

/-- The byte at a place satisfies a test. -/
def Holds (test : UInt8 → Bool) (buffer : Bytes) (place : Int) : Prop :=
  ∃ byte, byteAt buffer place = [byte] ∧ test byte = true

/-- The bytes that parting entries and bracketing lists need: blanks, commas and brackets. -/
def isListSyntax (byte : UInt8) : Bool :=
  isSeparator byte || byte == 0x5B || byte == 0x5D

/-- `wide` takes all of `region`, and on top of it only bytes that satisfy a test. -/
structure Widens (test : UInt8 → Bool) (buffer : Bytes) (region wide : Region) : Prop where
  within : wide.Within buffer
  keeps : ∀ place, region.Covers place → wide.Covers place
  spares : ∀ place, wide.Covers place → region.Covers place ∨ Holds test buffer place

@[simp] theorem Region.between_start (start stop : Nat) :
    (Region.between start stop).start = start := rfl

@[simp] theorem Region.between_stop (start stop : Nat) :
    (Region.between start stop).stop = stop := by
  simp only [Region.stop, Region.between]
  omega

theorem Holds.mono {test other : UInt8 → Bool} {buffer : Bytes} {place : Int}
    (weaker : ∀ byte, test byte = true → other byte = true) (holds : Holds test buffer place) :
    Holds other buffer place := by
  obtain ⟨byte, found, passes⟩ := holds
  exact ⟨byte, found, weaker byte passes⟩

theorem holds_natCast {test : UInt8 → Bool} {buffer : Bytes} {place : Nat} :
    Holds test buffer place ↔ ∃ byte, buffer[place]? = some byte ∧ test byte = true := by
  simp only [Holds, byteAt_natCast, Option.toList_eq_singleton_iff]

theorem isSeparator_of_isBlankByte (byte : UInt8) (blank : isBlankByte byte = true) :
    isSeparator byte = true := by
  rw [isSeparator, blank, Bool.true_or]

theorem isListSyntax_of_isSeparator (byte : UInt8) (separator : isSeparator byte = true) :
    isListSyntax byte = true := by
  rw [isListSyntax, separator, Bool.true_or, Bool.true_or]

theorem isBlankByte_of_isInlineBlank (byte : UInt8) (inline : isInlineBlank byte = true) :
    isBlankByte byte = true := by
  simp only [isInlineBlank, Bool.or_eq_true, beq_iff_eq] at inline
  rcases inline with rfl | rfl <;> decide

/-! ### Stretches whose bytes satisfy a test -/

/-- Every byte from one place up to another satisfies a test. -/
def AllBetween (test : UInt8 → Bool) (buffer : Bytes) (start stop : Nat) : Prop :=
  ∀ byte ∈ (buffer.take stop).drop start, test byte = true

theorem AllBetween.holds {test : UInt8 → Bool} {buffer : Bytes} {start stop : Nat}
    (all : AllBetween test buffer start stop) (inside : stop ≤ buffer.length) {place : Int}
    (low : start ≤ place) (high : place < stop) : Holds test buffer place := by
  obtain ⟨index, rfl⟩ : ∃ index : Nat, place = index := ⟨place.toNat, by omega⟩
  have bound : index < buffer.length := by omega
  refine holds_natCast.mpr ⟨buffer[index], List.getElem?_eq_getElem bound, all _ ?_⟩
  rw [List.mem_drop_iff_getElem]
  refine ⟨index - start, by rw [List.length_take]; omega, ?_⟩
  simp only [List.getElem_take]
  congr 1
  omega

theorem AllBetween.mono {test other : UInt8 → Bool} {buffer : Bytes} {start stop : Nat}
    (weaker : ∀ byte, test byte = true → other byte = true)
    (all : AllBetween test buffer start stop) : AllBetween other buffer start stop :=
  fun byte member => weaker byte (all byte member)

theorem AllBetween.append {test : UInt8 → Bool} {buffer : Bytes} {start middle stop : Nat}
    (first : AllBetween test buffer start middle) (second : AllBetween test buffer middle stop) :
    AllBetween test buffer start stop := by
  intro byte member
  rw [List.mem_drop_iff_getElem] at member
  obtain ⟨index, bound, rfl⟩ := member
  rw [List.length_take] at bound
  by_cases early : start + index < middle
  · apply first
    rw [List.mem_drop_iff_getElem]
    exact ⟨index, by rw [List.length_take]; omega, by simp⟩
  · apply second
    rw [List.mem_drop_iff_getElem]
    refine ⟨start + index - middle, by rw [List.length_take]; omega, ?_⟩
    simp only [List.getElem_take]
    congr 1
    omega

/-- Counting on while a test holds passes only bytes that satisfy it, and stays inside. -/
theorem allBetween_countWhile (test : UInt8 → Bool) {buffer : Bytes} {start : Nat}
    (inside : start ≤ buffer.length) :
    start + countWhile test (buffer.drop start) ≤ buffer.length ∧
      AllBetween test buffer start (start + countWhile test (buffer.drop start)) := by
  have leading := List.takeWhile_prefix test (l := buffer.drop start)
  have short := leading.length_le
  rw [List.length_drop] at short
  refine ⟨by simp only [countWhile]; omega, fun byte member => ?_⟩
  rw [countWhile, List.drop_take, Nat.add_sub_cancel_left,
    ← List.prefix_iff_eq_take.mp leading] at member
  exact List.all_eq_true.mp List.all_takeWhile byte member

/-- Trimming the bytes before a place leaves those before another, with only bytes between them
that satisfy the test. -/
theorem allBetween_trimEnd (test : UInt8 → Bool) {buffer : Bytes} {stop : Nat}
    (inside : stop ≤ buffer.length) :
    ∃ kept ≤ stop, trimEnd test (buffer.take stop) = buffer.take kept ∧
      AllBetween test buffer kept stop := by
  obtain ⟨tail, parts, blank⟩ := Text.trimEnd_append_blanks test (buffer.take stop)
  generalize trimEnd test (buffer.take stop) = head at *
  have size := congrArg List.length parts
  rw [List.length_take, List.length_append] at size
  refine ⟨head.length, by omega, ?_, ?_⟩
  · have front := List.prefix_iff_eq_take.mp ⟨tail, parts.symm⟩
    rw [List.take_take, Nat.min_eq_left (by omega)] at front
    exact front
  · intro byte member
    apply blank
    rw [parts] at member
    simpa using member

theorem allBetween_single {test : UInt8 → Bool} {buffer : Bytes} {place : Nat} {byte : UInt8}
    (found : buffer[place]? = some byte) (passes : test byte = true) :
    AllBetween test buffer place (place + 1) := by
  intro other member
  obtain ⟨bound, rfl⟩ := List.getElem?_eq_some_iff.mp found
  rw [List.drop_take, Nat.add_sub_cancel_left, List.take_one, List.head?_drop, found] at member
  simp only [Option.toList_some, List.mem_singleton] at member
  rw [member]
  exact passes

/-- A slice of one byte shows the byte at its place, if there is one. -/
theorem slice_succ {buffer : Bytes} {place : Nat} (inside : place ≤ buffer.length) :
    slice buffer place (place + 1) = buffer[place]?.toList := by
  rw [← List.head?_drop, ← List.take_one]
  by_cases last : place = buffer.length
  · have limit : clip buffer.length ((place : Int) + 1) ≤ place := last ▸ clip_le _ _
    rw [List.drop_of_length_le (Nat.le_of_eq last.symm), List.take_nil, slice, clip_of_le inside,
      List.drop_eq_nil_iff, List.length_take]
    omega
  · have next : ((place : Int) + 1) = ((place + 1 : Nat) : Int) := by omega
    rw [next, slice_natCast inside (by omega), List.drop_take, Nat.add_sub_cancel_left]

theorem getElem?_of_slice {buffer : Bytes} {place : Nat} {byte : UInt8}
    (inside : place ≤ buffer.length) (shown : slice buffer place (place + 1) = [byte]) :
    buffer[place]? = some byte := by
  rwa [slice_succ inside, Option.toList_eq_singleton_iff] at shown

/-! ### Longest runs -/

/-- The longest stretch from a place on whose bytes satisfy a test. -/
structure LongestRun (test : UInt8 → Bool) (buffer : Bytes) (start stop : Nat) : Prop where
  order : start ≤ stop
  inside : stop ≤ buffer.length
  all : AllBetween test buffer start stop
  ended : ∀ byte, buffer[stop]? = some byte → test byte = false

theorem getElem?_countWhile (test : UInt8 → Bool) (bytes : Bytes) :
    bytes[countWhile test bytes]? = (bytes.dropWhile test).head? := by
  induction bytes with
  | nil => rfl
  | cons byte rest ih =>
    rw [countWhile, List.takeWhile_cons, List.dropWhile_cons]
    split
    · rw [List.length_cons, List.getElem?_cons_succ]
      exact ih
    · rfl

theorem longestRun_countWhile (test : UInt8 → Bool) {buffer : Bytes} {start : Nat}
    (inside : start ≤ buffer.length) :
    LongestRun test buffer start (start + countWhile test (buffer.drop start)) := by
  obtain ⟨limit, all⟩ := allBetween_countWhile test inside
  refine ⟨Nat.le_add_right _ _, limit, all, fun byte found => ?_⟩
  rw [← List.getElem?_drop, getElem?_countWhile] at found
  have stopped := List.head?_dropWhile_not test (buffer.drop start)
  rw [found] at stopped
  simpa using stopped

theorem LongestRun.le {test : UInt8 → Bool} {buffer : Bytes} {start stop other : Nat}
    (one : LongestRun test buffer start stop) (two : LongestRun test buffer start other) :
    other ≤ stop := by
  by_contra beyond
  -- The byte that ends the one run would be inside of the other.
  have inner : Holds test buffer stop :=
    two.all.holds two.inside (by have := one.order; omega) (by omega)
  obtain ⟨byte, found, passes⟩ := holds_natCast.mp inner
  rw [one.ended byte found] at passes
  cases passes

theorem LongestRun.unique {test : UInt8 → Bool} {buffer : Bytes} {start stop other : Nat}
    (one : LongestRun test buffer start stop) (two : LongestRun test buffer start other) :
    stop = other :=
  Nat.le_antisymm (two.le one) (one.le two)

/-! ### Widening one region -/

/-- A region grows at both ends over bytes that satisfy a test. -/
structure Grows (test : UInt8 → Bool) (buffer : Bytes) (start stop first last : Nat) :
    Prop where
  before : first ≤ start
  after : stop ≤ last
  inside : last ≤ buffer.length
  front : AllBetween test buffer first start
  back : AllBetween test buffer stop last

theorem Grows.widens {test : UInt8 → Bool} {buffer : Bytes} {start stop first last : Nat}
    (grows : Grows test buffer start stop first last) (low : start ≤ buffer.length) :
    Widens test buffer (.between start stop) (.between first last) where
  within := ⟨first, last, rfl, Nat.le_trans grows.before low, grows.inside⟩
  keeps := by
    intro place covered
    have before := grows.before
    have after := grows.after
    simp only [Region.Covers, Region.between_start, Region.between_stop] at *
    omega
  spares := by
    intro place covered
    simp only [Region.Covers, Region.between_start, Region.between_stop] at *
    by_cases early : place < start
    · exact Or.inr (grows.front.holds low covered.1 early)
    · by_cases late : place < stop
      · exact Or.inl ⟨by omega, late⟩
      · exact Or.inr (grows.back.holds grows.inside (by omega) covered.2)

/-- A line ends at a place, with a break or with the buffer. -/
def EndsLine (buffer : Bytes) (place : Nat) : Prop :=
  place = buffer.length ∨ buffer[place]? = some 0x0D ∨ buffer[place]? = some newline

/-- A statement has its lines for itself: before it stand only blanks on its line, and behind it
only spaces and tabs up to a line end. -/
structure FillsLines (buffer : Bytes) (start stop : Nat) : Prop where
  front : AllBetween isBlankByte buffer (lineStart buffer start) start
  back : ∃ last, stop ≤ last ∧ AllBetween isInlineBlank buffer stop last ∧ EndsLine buffer last

/-- Where the blank lines behind a place end: behind the last newline among the blanks there, or
with these blanks if there is no newline among them. -/
def blankLinesEnd (buffer : Bytes) (place : Nat) : Nat :=
  let close := place + countWhile isBlankByte (buffer.drop place)
  match lastNewline? ((buffer.take close).drop place) with
  | some found => place + found + 1
  | none => close

section Statement

variable {buffer : Bytes} {start stop : Nat}

theorem atLineEnd_iff {place : Nat} (inside : place ≤ buffer.length) :
    atLineEnd (slice buffer place (place + 1)) = true ↔ EndsLine buffer place := by
  rw [slice_succ inside, EndsLine]
  by_cases last : place = buffer.length
  · simp [last, atLineEnd]
  · have bound : place < buffer.length := by omega
    simp [last, atLineEnd, List.getElem?_eq_getElem bound]

/-- A statement fills its lines if a line ends right behind the spaces and tabs that follow it. -/
theorem fillsLines_iff (high : stop ≤ buffer.length) :
    FillsLines buffer start stop ↔ AllBetween isBlankByte buffer (lineStart buffer start) start ∧
      EndsLine buffer (stop + countWhile isInlineBlank (buffer.drop stop)) := by
  have run := longestRun_countWhile isInlineBlank high
  constructor
  · rintro ⟨front, last, order, inline, ends⟩
    have inside : last ≤ buffer.length := by
      rcases ends with rfl | found | found
      · exact Nat.le_refl _
      all_goals exact Nat.le_of_lt (List.getElem?_eq_some_iff.mp found).1
    -- No line break is a space or a tab, so the run ends there.
    have stopped : LongestRun isInlineBlank buffer stop last := by
      refine ⟨order, inside, inline, fun byte found => ?_⟩
      rcases ends with rfl | shown | shown
      · rw [List.getElem?_eq_none (Nat.le_refl _)] at found
        cases found
      all_goals
        obtain rfl := Option.some.inj (shown.symm.trans found)
        rfl
    exact ⟨front, run.unique stopped ▸ ends⟩
  · rintro ⟨front, ends⟩
    exact ⟨front, _, run.order, run.all, ends⟩

theorem blankLinesEnd_between {place : Nat} (inside : place ≤ buffer.length) :
    place ≤ blankLinesEnd buffer place ∧
      blankLinesEnd buffer place ≤ place + countWhile isBlankByte (buffer.drop place) := by
  have limit := (allBetween_countWhile isBlankByte inside).1
  simp only [blankLinesEnd]
  split
  next found known =>
    have bound := (lastNewline?_eq_some known).1
    rw [List.length_drop, List.length_take] at bound
    omega
  next => omega

/-- Whether a statement fills its lines decides between the two ways to widen it. -/
theorem widenStatement_between (low : start ≤ buffer.length) (high : stop ≤ buffer.length) :
    (FillsLines buffer start stop → widenStatement buffer (.between start stop) =
      .between (lineStart buffer start)
        (blankLinesEnd buffer (stop + countWhile isInlineBlank (buffer.drop stop)))) ∧
    (¬ FillsLines buffer start stop → widenStatement buffer (.between start stop) =
      .between start (stop + countWhile isInlineBlank (buffer.drop stop))) := by
  have line := lineStart_le low
  have inside := (allBetween_countWhile isInlineBlank high).1
  rw [fillsLines_iff high]
  -- Places are integers here; each new end is named as a natural number once.
  simp only [widenStatement, Region.between_start, Region.between_stop, sliceFrom_natCast high]
  generalize hm : stop + countWhile isInlineBlank (buffer.drop stop) = middle at *
  have cast : (stop : Int) + countWhile isInlineBlank (buffer.drop stop) = (middle : Int) := by
    omega
  have blank : (slice buffer (lineStart buffer start) start).all isBlankByte = true ↔
      AllBetween isBlankByte buffer (lineStart buffer start) start := by
    rw [slice_natCast (by omega) low, List.all_eq_true]
    rfl
  rw [cast, ← blank, ← atLineEnd_iff inside, ← Bool.and_eq_true]
  constructor
  · intro fills
    have limit := (allBetween_countWhile isBlankByte inside).1
    rw [fills, if_neg (by simp), sliceFrom_natCast inside, blankLinesEnd]
    generalize hn : middle + countWhile isBlankByte (buffer.drop middle) = close at *
    have cast : (middle : Int) + countWhile isBlankByte (buffer.drop middle) = (close : Int) := by
      omega
    rw [cast, slice_natCast inside limit, clip_of_le inside]
    cases lastNewline? ((buffer.take close).drop middle) with
    | some place => simp [Region.between]
    | none => rfl
  · intro shared
    rw [if_pos ((Bool.not_eq_true' _).mpr (Bool.eq_false_iff.mpr shared))]
    rfl

/-- Widening a statement takes only blanks. -/
theorem widenStatement_grows (low : start ≤ buffer.length) (high : stop ≤ buffer.length) :
    ∃ first last, widenStatement buffer (.between start stop) = .between first last ∧
      Grows isBlankByte buffer start stop first last := by
  obtain ⟨filling, sharing⟩ := widenStatement_between low high
  obtain ⟨inside, inline⟩ := allBetween_countWhile isInlineBlank high
  have back := inline.mono isBlankByte_of_isInlineBlank
  by_cases fills : FillsLines buffer start stop
  · obtain ⟨after, before⟩ := blankLinesEnd_between inside
    obtain ⟨limit, blanks⟩ := allBetween_countWhile isBlankByte inside
    refine ⟨_, _, filling fills, lineStart_le low, by omega, by omega, fills.front,
      back.append ?_⟩
    -- The blank lines are a part of the blanks.
    intro byte member
    apply blanks
    rw [List.drop_take] at member ⊢
    exact (List.take_subset_take_left _ (by omega)) member
  · refine ⟨_, _, sharing fills, Nat.le_refl _, by omega, inside, ?_, back⟩
    intro byte member
    simp at member

end Statement

/-- Widening an entry takes only blanks, commas and brackets. -/
theorem widenEntry_grows {buffer : Bytes} {start stop : Nat} (low : start ≤ buffer.length)
    (high : stop ≤ buffer.length) :
    ∃ first last, widenEntry buffer (.between start stop) = .between first last ∧
      Grows isListSyntax buffer start stop first last := by
  have blankOk := fun byte blank => isListSyntax_of_isSeparator byte
    (isSeparator_of_isBlankByte byte blank)
  obtain ⟨kept, before, head, front⟩ := allBetween_trimEnd isSeparator low
  replace front := front.mono isListSyntax_of_isSeparator
  obtain ⟨inside, blanks⟩ := allBetween_countWhile isBlankByte high
  have back := blanks.mono blankOk
  simp only [widenEntry, Region.between_start, Region.between_stop, sliceFrom_natCast high,
    sliceTo_natCast low, head, List.length_take, Nat.min_eq_left (Nat.le_trans before low)]
  generalize hm : stop + countWhile isBlankByte (buffer.drop stop) = middle at *
  have cast : (stop : Int) + countWhile isBlankByte (buffer.drop stop) = (middle : Int) := by
    omega
  rw [cast]
  split
  · -- An entry stands before this one.
    exact ⟨kept, middle, rfl, before, by omega, inside, front, back⟩
  next first =>
    obtain ⟨inside', separators⟩ := allBetween_countWhile isSeparator inside
    have back' := back.append (separators.mono isListSyntax_of_isSeparator)
    rw [sliceFrom_natCast inside]
    generalize hn : middle + countWhile isSeparator (buffer.drop middle) = limit at *
    have cast : (middle : Int) + countWhile isSeparator (buffer.drop middle) = (limit : Int) := by
      omega
    rw [cast]
    split
    · -- The first entry, and others follow.
      exact ⟨kept, limit, rfl, before, by omega, inside', front, back'⟩
    next only =>
      -- Both brackets stand right outside what is taken so far.
      have opening : (buffer.take kept).getLast? = some 0x5B := by simpa using first
      have closing := getElem?_of_slice inside' (by simpa using only)
      obtain ⟨bound, -⟩ := List.getElem?_eq_some_iff.mp closing
      obtain ⟨place, rfl⟩ : ∃ place, kept = place + 1 := by
        cases kept with
        | zero => simp at opening
        | succ place => exact ⟨place, rfl⟩
      have open' : buffer[place]? = some 0x5B := by
        rw [List.getLast?_eq_getElem?, List.length_take, Nat.min_eq_left (by omega),
          Nat.add_sub_cancel, List.getElem?_take_of_lt (by omega)] at opening
        exact opening
      have pred : ((place + 1 : Nat) : Int) - 1 = (place : Int) := by omega
      obtain ⟨outer, before', head', front'⟩ :=
        allBetween_trimEnd isBlankByte (show place ≤ buffer.length by omega)
      rw [pred, sliceTo_natCast (by omega), head', List.length_take, Nat.min_eq_left (by omega)]
      refine ⟨outer, limit + 1, rfl, by omega, by omega, bound, ?_, ?_⟩
      · exact ((front'.mono blankOk).append (allBetween_single open' rfl)).append front
      · exact back'.append (allBetween_single closing rfl)

theorem widenStatement_widens {buffer : Bytes} {region : Region} (within : region.Within buffer) :
    Widens isBlankByte buffer region (widenStatement buffer region) := by
  obtain ⟨start, stop, rfl, low, high⟩ := within
  obtain ⟨first, last, same, grows⟩ := widenStatement_grows low high
  rw [same]
  exact grows.widens low

theorem widenEntry_widens {buffer : Bytes} {region : Region} (within : region.Within buffer) :
    Widens isListSyntax buffer region (widenEntry buffer region) := by
  obtain ⟨start, stop, rfl, low, high⟩ := within
  obtain ⟨first, last, same, grows⟩ := widenEntry_grows low high
  rw [same]
  exact grows.widens low

/-! ### Joining regions -/

/-- The regions in a list take all of some others, and on top of it only bytes that satisfy a
test. -/
structure Gathers (test : UInt8 → Bool) (buffer : Bytes) (regions gathered : List Region) :
    Prop where
  within : ∀ wide ∈ gathered, wide.Within buffer
  keeps : ∀ region ∈ regions, ∀ place, region.Covers place → ∃ wide ∈ gathered, wide.Covers place
  spares : ∀ wide ∈ gathered, ∀ place, wide.Covers place →
    (∃ region ∈ regions, region.Covers place) ∨ Holds test buffer place

theorem Gathers.refl {test : UInt8 → Bool} {buffer : Bytes} {regions : List Region}
    (within : ∀ region ∈ regions, region.Within buffer) : Gathers test buffer regions regions :=
  ⟨within, fun region member _ covered => ⟨region, member, covered⟩,
    fun region member _ covered => Or.inl ⟨region, member, covered⟩⟩

theorem Gathers.trans {test : UInt8 → Bool} {buffer : Bytes} {regions middle gathered : List Region}
    (one : Gathers test buffer regions middle) (two : Gathers test buffer middle gathered) :
    Gathers test buffer regions gathered where
  within := two.within
  keeps := by
    intro region member place covered
    obtain ⟨between, inside, held⟩ := one.keeps region member place covered
    exact two.keeps between inside place held
  spares := by
    intro wide member place covered
    rcases two.spares wide member place covered with ⟨between, inside, held⟩ | passes
    · exact one.spares between inside place held
    · exact Or.inr passes

/-- A region that is left as it is beside others that are gathered. -/
theorem Gathers.cons {test : UInt8 → Bool} {buffer : Bytes} {region : Region}
    {regions gathered : List Region} (within : region.Within buffer)
    (gathers : Gathers test buffer regions gathered) :
    Gathers test buffer (region :: regions) (region :: gathered) where
  within := by
    intro wide member
    rcases List.mem_cons.mp member with rfl | member
    · exact within
    · exact gathers.within wide member
  keeps := by
    intro other member place covered
    rcases List.mem_cons.mp member with rfl | member
    · exact ⟨other, by simp, covered⟩
    · obtain ⟨wide, inside, held⟩ := gathers.keeps other member place covered
      exact ⟨wide, by simp [inside], held⟩
  spares := by
    intro wide member place covered
    rcases List.mem_cons.mp member with rfl | member
    · exact Or.inl ⟨wide, by simp, covered⟩
    · rcases gathers.spares wide member place covered with ⟨other, inside, held⟩ | passes
      · exact Or.inl ⟨other, by simp [inside], held⟩
      · exact Or.inr passes

/-- A region that is stretched to the end of the next one takes on top of both only what parts
them. -/
theorem covers_join {buffer : Bytes} {start stop start' stop' : Nat}
    (low : start' ≤ buffer.length) (high : stop ≤ buffer.length)
    (parted : (slice buffer stop start').all isSeparator = true) (place : Int)
    (covered : (Region.between start (max stop stop')).Covers place) :
    (Region.between start stop).Covers place ∨ (Region.between start' stop').Covers place ∨
      Holds isSeparator buffer place := by
  simp only [Region.Covers, Region.between_start, Region.between_stop] at *
  by_cases first : place < stop
  · exact Or.inl ⟨covered.1, first⟩
  · by_cases second : start' ≤ place
    · exact Or.inr (Or.inl ⟨second, by omega⟩)
    · -- Between the end of the first and the start of the second stand only separators.
      have separators : AllBetween isSeparator buffer stop start' := by
        rw [slice_natCast high low, List.all_eq_true] at parted
        exact parted
      exact Or.inr (Or.inr (separators.holds low (by omega) (by omega)))

/-- Two regions of a list that only separators part may be joined. -/
theorem join_gathers {buffer : Bytes} {start stop start' stop' : Nat} {rest : List Region}
    (order : start ≤ start')
    (within : ∀ region ∈ .between start stop :: .between start' stop' :: rest,
      region.Within buffer)
    (low : start' ≤ buffer.length) (high : stop ≤ buffer.length) (high' : stop' ≤ buffer.length)
    (parted : (slice buffer stop start').all isSeparator = true) :
    Gathers isSeparator buffer (.between start stop :: .between start' stop' :: rest)
      (.between start (max stop stop') :: rest) where
  within := by
    intro region member
    rcases List.mem_cons.mp member with rfl | member
    · exact ⟨start, max stop stop', rfl, by omega, by omega⟩
    · exact within region (by simp [member])
  keeps := by
    intro region member place covered
    simp only [List.mem_cons] at member
    -- Each of the two lies in the joined one, since they come in the order of their starts.
    rcases member with rfl | rfl | member
    · refine ⟨.between start (max stop stop'), by simp, ?_⟩
      simp only [Region.Covers, Region.between_start, Region.between_stop] at *
      omega
    · refine ⟨.between start (max stop stop'), by simp, ?_⟩
      simp only [Region.Covers, Region.between_start, Region.between_stop] at *
      omega
    · exact ⟨region, by simp [member], covered⟩
  spares := by
    intro wide member place covered
    rcases List.mem_cons.mp member with rfl | member
    · rcases covers_join low high parted place covered with first | second | separator
      · exact Or.inl ⟨_, by simp, first⟩
      · exact Or.inl ⟨_, by simp, second⟩
      · exact Or.inr separator
    · exact Or.inl ⟨wide, by simp [member], covered⟩

/-- Joining stretches the first of two regions to the end of the one that ends last. -/
theorem Region.join_between (start stop start' stop' : Nat) :
    ({ Region.between start stop with
      length := max (Region.between start stop).length
        ((Region.between start' stop').stop - (Region.between start stop).start) } : Region) =
      .between start (max stop stop') := by
  simp only [Region.between_stop, Region.between_start]
  simp only [Region.between, Region.mk.injEq, true_and]
  omega

theorem mergeFrom_gathers {buffer : Bytes} (current : Region) (rest : List Region)
    (within : ∀ region ∈ current :: rest, region.Within buffer)
    (sorted : (current :: rest).Pairwise fun first second => first.start ≤ second.start) :
    Gathers isSeparator buffer (current :: rest) (mergeFrom buffer current rest) := by
  -- The open region grows from step to step, so the induction is for every one of them.
  induction rest generalizing current with
  | nil => exact Gathers.refl within
  | cons next rest ih =>
    obtain ⟨least, later⟩ := List.pairwise_cons.mp sorted
    rw [mergeFrom]
    split
    next parted =>
      obtain ⟨start, stop, rfl, low, high⟩ := within current (by simp)
      obtain ⟨start', stop', rfl, low', high'⟩ := within next (by simp)
      have order : start ≤ start' := by
        have bound := least (.between start' stop') (by simp)
        simp only [Region.between_start] at bound
        omega
      rw [Region.between_start, Region.between_stop] at parted
      have one := join_gathers order within low' high high' parted
      simp only [Region.join_between]
      apply one.trans
      apply ih _ one.within
      -- The joined region starts where the first one did.
      rw [List.pairwise_cons] at later ⊢
      exact ⟨fun region member => least region (by simp [member]), later.2⟩
    next apart =>
      exact (ih next (fun region member => within region (by simp [member])) later).cons
        (within current (by simp))

theorem Region.precedes_trans (first second third : Region) (one : first.precedes second = true)
    (two : second.precedes third = true) : first.precedes third = true := by
  simp only [Region.precedes, Bool.or_eq_true, Bool.and_eq_true, decide_eq_true_eq,
    beq_iff_eq] at *
  omega

theorem Region.precedes_total (first second : Region) :
    (first.precedes second || second.precedes first) = true := by
  simp only [Region.precedes, Bool.or_eq_true, Bool.and_eq_true, decide_eq_true_eq, beq_iff_eq]
  omega

theorem Region.start_le_of_precedes {first second : Region}
    (ordered : first.precedes second = true) : first.start ≤ second.start := by
  simp only [Region.precedes, Bool.or_eq_true, Bool.and_eq_true, decide_eq_true_eq,
    beq_iff_eq] at ordered
  omega

/-- Joining neighbours takes on top of them only blanks and commas. -/
theorem mergeAdjacent_gathers {buffer : Bytes} (regions : List Region)
    (within : ∀ region ∈ regions, region.Within buffer) :
    Gathers isSeparator buffer regions (mergeAdjacent buffer regions) := by
  have perm := List.mergeSort_perm regions Region.precedes
  have sorted := (List.pairwise_mergeSort Region.precedes_trans Region.precedes_total regions).imp
    Region.start_le_of_precedes
  have moved : ∀ region ∈ regions.mergeSort Region.precedes, region.Within buffer :=
    fun region member => within region (perm.mem_iff.mp member)
  rw [mergeAdjacent]
  split
  next empty =>
    rw [empty, List.nil_perm] at perm
    subst perm
    exact ⟨by simp, by simp, by simp⟩
  next first rest parts =>
    rw [parts] at perm sorted moved
    have gathers := mergeFrom_gathers first rest moved sorted
    refine ⟨gathers.within, ?_, ?_⟩
    · exact fun region member => gathers.keeps region (perm.mem_iff.mpr member)
    · intro wide member place covered
      rcases gathers.spares wide member place covered with ⟨region, inside, held⟩ | separator
      · exact Or.inl ⟨region, perm.mem_iff.mp inside, held⟩
      · exact Or.inr separator

theorem Gathers.mono {test other : UInt8 → Bool} {buffer : Bytes} {regions gathered : List Region}
    (weaker : ∀ byte, test byte = true → other byte = true)
    (gathers : Gathers test buffer regions gathered) : Gathers other buffer regions gathered :=
  ⟨gathers.within, gathers.keeps, fun wide member place covered =>
    (gathers.spares wide member place covered).imp_right (Holds.mono weaker)⟩

/-- Widening each region of a list. -/
theorem Gathers.map {test : UInt8 → Bool} {buffer : Bytes} {widen : Region → Region}
    (widens : ∀ region : Region, region.Within buffer → Widens test buffer region (widen region))
    {regions gathered : List Region} (gathers : Gathers test buffer regions gathered) :
    Gathers test buffer regions (gathered.map widen) where
  within := by
    intro wide member
    obtain ⟨region, inside, rfl⟩ := List.mem_map.mp member
    exact (widens region (gathers.within region inside)).within
  keeps := by
    intro region member place covered
    obtain ⟨wide, inside, held⟩ := gathers.keeps region member place covered
    exact ⟨widen wide, List.mem_map_of_mem inside,
      (widens wide (gathers.within wide inside)).keeps place held⟩
  spares := by
    intro wide member place covered
    obtain ⟨region, inside, rfl⟩ := List.mem_map.mp member
    rcases (widens region (gathers.within region inside)).spares place covered with held | passes
    · exact gathers.spares region inside place held
    · exact Or.inr passes

end SchemaDoc.Editing
