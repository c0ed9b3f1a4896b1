import Mathlib.Data.List.Basic
import SchemaDoc.Editing.Batch

/-!
# A batch of edits, place by place

`splice` sorts a batch and walks over the buffer once with a cursor. Here the same result is read
off place by place: over all the integers in ascending order, first the texts inserted there in
the order in which they were staged, then the byte of the buffer, unless there is none or a
deletion covers it.

The walk keeps one invariant. Everything before the cursor is settled, so on the sorted edits that
are left the walk gives what reading off gives with all places before the cursor counted as
removed. Sorting is stable, so it changes neither what is covered nor the order of the texts that
share a place.
-/
namespace SchemaDoc.Editing

open Text (Bytes)

/-- What `emit` gives at `count` places from `start` on, in ascending order. -/
def sweep (emit : Int → Bytes) (start : Int) : Nat → Bytes
  | 0 => []
  | count + 1 => emit start ++ sweep emit (start + 1) count

/-- All places at which `emit` gives something lie in a stretch. -/
def SupportedOn (emit : Int → Bytes) (start : Int) (count : Nat) : Prop :=
  ∀ place, emit place ≠ [] → start ≤ place ∧ place < start + count

/-- `bytes` is what `emit` gives over all the integers in ascending order. -/
def Sweeps (emit : Int → Bytes) (bytes : Bytes) : Prop :=
  ∃ start count, SupportedOn emit start count ∧ bytes = sweep emit start count

/-- The byte at a place of a buffer, if there is one. -/
def byteAt (buffer : Bytes) (place : Int) : Bytes :=
  if place < 0 then [] else buffer[place.toNat]?.toList

/-- The texts inserted at a place, in their order. -/
def textsAt (inserted : List (Int × Bytes)) (place : Int) : Bytes :=
  (inserted.filter (·.1 == place)).flatMap (·.2)

/-- What stands at a place after some texts are inserted and some places removed. -/
def weaveAt (buffer : Bytes) (removed : Int → Bool) (inserted : List (Int × Bytes))
    (place : Int) : Bytes :=
  textsAt inserted place ++ if removed place then [] else byteAt buffer place

/-- The place and the text of an insertion. -/
def Edit.insertion? : Edit → Option (Int × Bytes)
  | .insertion position text => some (position, text)
  | .deletion _ _ => none

/-- The insertions among edits, in their order. -/
def insertions (edits : List Edit) : List (Int × Bytes) :=
  edits.filterMap Edit.insertion?

/-- Whether an edit is an insertion at a place. -/
def Edit.insertsAt (place : Int) : Edit → Bool
  | .insertion position _ => position == place
  | .deletion _ _ => false

/-- Whether an edit deletes a place. -/
def Edit.deletes (place : Int) : Edit → Bool
  | .insertion _ _ => false
  | .deletion position length => position ≤ place && place < position + length

/-- Whether some edit deletes a place. -/
def deleted (edits : List Edit) (place : Int) : Bool :=
  edits.any (Edit.deletes place)

/-- What a batch of edits makes of a place. -/
def emittedAt (buffer : Bytes) (edits : List Edit) : Int → Bytes :=
  weaveAt buffer (deleted edits) (insertions edits)

/-- The same edits in another order in which insertions at one place keep theirs. -/
def Reorders (first second : List Edit) : Prop :=
  first.Perm second ∧
    ∀ place, first.filter (Edit.insertsAt place) = second.filter (Edit.insertsAt place)

/-! ### Sweeps -/

theorem sweep_add (emit : Int → Bytes) (start : Int) (first second : Nat) :
    sweep emit start (first + second) =
      sweep emit start first ++ sweep emit (start + first) second := by
  induction first generalizing start with
  | zero => simp [sweep]
  | succ first ih =>
    rw [Nat.add_right_comm, sweep, sweep, ih, List.append_assoc]
    congr 3
    omega

theorem sweep_congr {emit other : Int → Bytes} {start : Int} {count : Nat}
    (agree : ∀ place, start ≤ place → place < start + count → emit place = other place) :
    sweep emit start count = sweep other start count := by
  induction count generalizing start with
  | zero => rfl
  | succ count ih =>
    rw [sweep, sweep, agree start (by omega) (by omega)]
    rw [ih fun place low high => agree place (by omega) (by omega)]

theorem sweep_eq_nil {emit : Int → Bytes} {start : Int} {count : Nat}
    (silent : ∀ place, start ≤ place → place < start + count → emit place = []) :
    sweep emit start count = [] := by
  induction count generalizing start with
  | zero => rfl
  | succ count ih =>
    rw [sweep, silent start (by omega) (by omega),
      ih fun place low high => silent place (by omega) (by omega)]
    rfl

/-- A wider stretch gives nothing more. -/
theorem SupportedOn.sweep_widen {emit : Int → Bytes} {start : Int} {count : Nat}
    (support : SupportedOn emit start count) (wide : Int) (more : Nat) (low : wide ≤ start)
    (high : start + count ≤ wide + more) : sweep emit wide more = sweep emit start count := by
  have outside : ∀ place, place < start ∨ start + count ≤ place → emit place = [] := by
    intro place out
    by_contra given
    have inside := support place given
    omega
  obtain ⟨before, hb⟩ : ∃ before : Nat, start = wide + before := ⟨(start - wide).toNat, by omega⟩
  obtain ⟨after, ha⟩ : ∃ after : Nat, more = before + count + after :=
    ⟨more - (before + count), by omega⟩
  subst ha
  rw [sweep_add, sweep_add, ← hb]
  have front : sweep emit wide before = [] :=
    sweep_eq_nil fun place _ _ => outside place (by omega)
  have back : sweep emit (wide + (before + count : Nat)) after = [] :=
    sweep_eq_nil fun place _ _ => outside place (by omega)
  rw [front, back, List.nil_append, List.append_nil]

/-- What is read off does not depend on the stretch that is read. -/
theorem Sweeps.unique {emit : Int → Bytes} {first second : Bytes} (one : Sweeps emit first)
    (two : Sweeps emit second) : first = second := by
  obtain ⟨start, count, support, rfl⟩ := one
  obtain ⟨start', count', support', rfl⟩ := two
  -- Both stretches lie in the one from the lower start to the higher end.
  let wide := min start start'
  let more := (max (start + count) (start' + count') - wide).toNat
  rw [← support.sweep_widen wide more (by omega) (by omega)]
  rw [← support'.sweep_widen wide more (by omega) (by omega)]

/-! ### Bytes of the buffer -/

theorem byteAt_of_neg {buffer : Bytes} {place : Int} (negative : place < 0) :
    byteAt buffer place = [] := by
  rw [byteAt, if_pos negative]

theorem byteAt_natCast (buffer : Bytes) (place : Nat) :
    byteAt buffer place = buffer[place]?.toList := by
  rw [byteAt, if_neg (by omega), Int.toNat_natCast]

theorem byteAt_of_length_le {buffer : Bytes} {place : Int} (outside : buffer.length ≤ place) :
    byteAt buffer place = [] := by
  rw [byteAt, if_neg (by omega), List.getElem?_eq_none (by omega)]
  rfl

/-- Reading off the bytes from a place on gives a stretch of the buffer. -/
theorem sweep_bytes (buffer : Bytes) (done : Nat) (start : Int) (count : Nat)
    (behind : start ≤ done) :
    sweep (fun place => if place < done then [] else byteAt buffer place) start count =
      (buffer.take (start + count).toNat).drop done := by
  induction count with
  | zero =>
    symm
    apply List.drop_eq_nil_of_le
    have bound := List.length_take_le (start + (0 : Nat)).toNat buffer
    omega
  | succ count ih =>
    rw [sweep_add, ih]
    simp only [sweep, List.append_nil]
    by_cases early : start + count < done
    · -- The cursor is still ahead, so there is nothing on either side.
      rw [if_pos early, List.append_nil, List.drop_eq_nil_of_le, List.drop_eq_nil_of_le]
      · exact Nat.le_trans (List.length_take_le _ _) (by omega)
      · exact Nat.le_trans (List.length_take_le _ _) (by omega)
    · obtain ⟨place, hp⟩ : ∃ place : Nat, start + count = place :=
        ⟨(start + count).toNat, by omega⟩
      have next : (start + (count + 1 : Nat)).toNat = place + 1 := by omega
      rw [if_neg early, hp, next, byteAt_natCast, Int.toNat_natCast, List.take_add_one]
      by_cases inside : place < buffer.length
      · rw [List.drop_append_of_le_length]
        rw [List.length_take]
        omega
      · simp [List.getElem?_eq_none (Nat.le_of_not_lt inside)]

/-! ### What one edit does to a place -/

theorem weaveAt_congr {buffer : Bytes} {removed other : Int → Bool}
    {inserted : List (Int × Bytes)} {place : Int}
    (agree : 0 ≤ place → removed place = other place) :
    weaveAt buffer removed inserted place = weaveAt buffer other inserted place := by
  by_cases negative : place < 0
  · simp [weaveAt, byteAt_of_neg negative]
  · rw [weaveAt, weaveAt, agree (by omega)]

@[simp] theorem insertions_insertion (position : Int) (text : Bytes) (rest : List Edit) :
    insertions (.insertion position text :: rest) = (position, text) :: insertions rest := rfl

@[simp] theorem insertions_deletion (position length : Int) (rest : List Edit) :
    insertions (.deletion position length :: rest) = insertions rest := rfl

@[simp] theorem deleted_insertion (position : Int) (text : Bytes) (rest : List Edit)
    (place : Int) : deleted (.insertion position text :: rest) place = deleted rest place := rfl

@[simp] theorem deleted_deletion (position length : Int) (rest : List Edit) (place : Int) :
    deleted (.deletion position length :: rest) place =
      ((position ≤ place && place < position + length) || deleted rest place) := rfl

theorem textsAt_cons (position : Int) (text : Bytes) (rest : List (Int × Bytes)) (place : Int) :
    textsAt ((position, text) :: rest) place =
      (if position = place then text else []) ++ textsAt rest place := by
  by_cases here : position = place <;> simp [textsAt, here]

theorem textsAt_eq (edits : List Edit) (place : Int) :
    textsAt (insertions edits) place =
      ((edits.filter (Edit.insertsAt place)).filterMap Edit.insertion?).flatMap (·.2) := by
  induction edits with
  | nil => rfl
  | cons edit rest ih =>
    cases edit with
    | insertion position text =>
      rw [insertions_insertion, textsAt_cons, ih]
      by_cases here : position = place <;> simp [Edit.insertsAt, Edit.insertion?, here]
    | deletion position length => rw [insertions_deletion, ih]; rfl

theorem textsAt_eq_nil {edits : List Edit} {place : Int}
    (elsewhere : ∀ edit ∈ edits, edit.position ≠ place) :
    textsAt (insertions edits) place = [] := by
  have silent : edits.filter (Edit.insertsAt place) = [] := by
    rw [List.filter_eq_nil_iff]
    intro edit member
    have other := elsewhere edit member
    cases edit with
    | insertion position text =>
      simp only [Edit.position] at other
      simpa [Edit.insertsAt] using other
    | deletion position length => simp [Edit.insertsAt]
  rw [textsAt_eq, silent]
  rfl

/-- Before the places of all edits nothing happens. -/
theorem weaveAt_before {buffer : Bytes} {done : Nat} {edits : List Edit} {place : Int}
    (later : ∀ edit ∈ edits, place < edit.position) :
    weaveAt buffer (fun place => place < done || deleted edits place) (insertions edits) place =
      if place < done then [] else byteAt buffer place := by
  have silent : textsAt (insertions edits) place = [] := by
    apply textsAt_eq_nil
    intro edit member
    have bound := later edit member
    omega
  have kept : deleted edits place = false := by
    simp only [deleted, List.any_eq_false]
    intro edit member
    have bound := later edit member
    cases edit with
    | insertion position text => simp [Edit.deletes]
    | deletion position length =>
      simp only [Edit.position] at bound
      simp only [Edit.deletes, Bool.and_eq_true, decide_eq_true_eq]
      omega
  simp [weaveAt, silent, kept]

/-! ### The walk over sorted edits -/

/-- What the walk still has to give at a place when everything before `done` is settled. -/
def remainingAt (buffer : Bytes) (done : Nat) (edits : List Edit) : Int → Bytes :=
  weaveAt buffer (fun place => place < done || deleted edits place) (insertions edits)

/-- From its own place on, an insertion gives its text and moves the cursor there. -/
theorem remainingAt_insertion (buffer : Bytes) (done : Nat) (position : Int) (text : Bytes)
    (rest : List Edit) (place : Int) (reached : position ≤ place) :
    remainingAt buffer done (.insertion position text :: rest) place =
      (if position = place then text else []) ++
        remainingAt buffer (max done position.toNat) rest place := by
  have same : remainingAt buffer (max done position.toNat) rest place =
      remainingAt buffer done rest place := by
    apply weaveAt_congr
    intro nonnegative
    congr 1
    rw [decide_eq_decide]
    omega
  rw [same, remainingAt, remainingAt, weaveAt, weaveAt, insertions_insertion, textsAt_cons,
    List.append_assoc]
  rfl

/-- From its own place on, a deletion moves the cursor to its end. -/
theorem remainingAt_deletion (buffer : Bytes) (done : Nat) (position length : Int)
    (rest : List Edit) (place : Int) (reached : position ≤ place) :
    remainingAt buffer done (.deletion position length :: rest) place =
      remainingAt buffer (max (max done position.toNat) (position + length).toNat) rest place := by
  apply weaveAt_congr
  intro nonnegative
  rw [deleted_deletion, ← Bool.or_assoc]
  congr 1
  rw [Bool.eq_iff_iff]
  simp only [Bool.or_eq_true, Bool.and_eq_true, decide_eq_true_eq]
  omega

/-- Walking over sorted edits is reading off what remains. -/
theorem spliceFrom_eq_sweep (buffer : Bytes) (edits : List Edit) (done : Nat) (start : Int)
    (count : Nat) (sorted : edits.Pairwise fun first second => first.position ≤ second.position)
    (within : ∀ edit ∈ edits, start ≤ edit.position ∧ edit.position < start + count)
    (behind : start ≤ done) (ahead : buffer.length ≤ start + count) :
    spliceFrom buffer done edits = sweep (remainingAt buffer done edits) start count := by
  -- The cursor moves and the stretch shrinks from edit to edit, so the induction is for all of them.
  induction edits generalizing done start count with
  | nil =>
    have plain : remainingAt buffer done [] =
        fun place : Int => if place < done then [] else byteAt buffer place := by
      funext place
      exact weaveAt_before (by simp)
    rw [plain, sweep_bytes buffer done start count behind, spliceFrom_nil,
      List.take_of_length_le (by omega)]
  | cons edit rest ih =>
    obtain ⟨first, sorted⟩ := List.pairwise_cons.mp sorted
    obtain ⟨low, high⟩ := within edit List.mem_cons_self
    -- The stretch falls into the places before the edit and the edit's own place with the rest.
    obtain ⟨before, hb⟩ : ∃ before : Nat, edit.position = start + before :=
      ⟨(edit.position - start).toNat, by omega⟩
    obtain ⟨after, rfl⟩ : ∃ after : Nat, count = before + (after + 1) :=
      ⟨count - before - 1, by omega⟩
    -- Before its place only the buffer from the cursor on is copied.
    have front : sweep (remainingAt buffer done (edit :: rest)) start before =
        (buffer.take edit.position.toNat).drop done := by
      rw [hb, ← sweep_bytes buffer done start before behind]
      apply sweep_congr
      intro place _ below
      apply weaveAt_before
      intro other member
      rcases List.mem_cons.mp member with rfl | member
      · omega
      · have later := first other member
        omega
    -- From its place on the rest is walked, wherever the cursor has got to by then.
    have tail (reached : Nat) (passed : edit.position ≤ reached) :
        spliceFrom buffer reached rest =
          sweep (remainingAt buffer reached rest) edit.position (after + 1) := by
      apply ih reached edit.position (after + 1) sorted _ passed (by omega)
      intro other member
      have bound := within other (List.mem_cons_of_mem edit member)
      exact ⟨first other member, by omega⟩
    rw [sweep_add, front, ← hb]
    cases edit with
    | insertion position text =>
      simp only [Edit.position] at tail ⊢
      rw [spliceFrom]
      simp only [Edit.position]
      rw [tail _ (by omega), sweep, sweep, remainingAt_insertion _ _ _ _ _ _ (by omega),
        if_pos rfl, List.append_assoc text]
      -- The text is given at the first place of what is left, and nothing of it later.
      congr 3
      apply sweep_congr
      intro place above _
      rw [remainingAt_insertion _ _ _ _ _ _ (by omega), if_neg (by omega), List.nil_append]
    | deletion position length =>
      simp only [Edit.position] at tail ⊢
      rw [spliceFrom]
      simp only [Edit.position]
      rw [tail _ (by omega)]
      congr 1
      apply sweep_congr
      intro place above _
      rw [remainingAt_deletion _ _ _ _ _ _ (by omega)]

/-! ### Sorting and reordering -/

theorem Edit.precedes_trans (first second third : Edit) (one : first.precedes second = true)
    (two : second.precedes third = true) : first.precedes third = true := by
  simp only [Edit.precedes, Bool.or_eq_true, Bool.and_eq_true, decide_eq_true_eq,
    beq_iff_eq] at *
  omega

theorem Edit.precedes_total (first second : Edit) :
    (first.precedes second || second.precedes first) = true := by
  simp only [Edit.precedes, Bool.or_eq_true, Bool.and_eq_true, decide_eq_true_eq, beq_iff_eq]
  omega

theorem Edit.position_le_of_precedes {first second : Edit}
    (ordered : first.precedes second = true) : first.position ≤ second.position := by
  simp only [Edit.precedes, Bool.or_eq_true, Bool.and_eq_true, decide_eq_true_eq,
    beq_iff_eq] at ordered
  omega

/-- Sorting keeps insertions at one place in their order. -/
theorem mergeSort_reorders (edits : List Edit) :
    Reorders (edits.mergeSort Edit.precedes) edits := by
  have perm := List.mergeSort_perm edits Edit.precedes
  refine ⟨perm, fun place => ?_⟩
  -- Insertions at one place precede each other both ways, and a stable sort keeps such a sublist.
  have tied : (edits.filter (Edit.insertsAt place)).Pairwise
      (fun first second => first.precedes second) := by
    apply List.pairwise_of_forall_mem_list
    intro first one second two
    have here := (List.mem_filter.mp one).2
    have there := (List.mem_filter.mp two).2
    cases first <;> cases second <;> simp_all [Edit.insertsAt, Edit.precedes, Edit.position,
      Edit.rank]
  have sub := (List.sublist_mergeSort Edit.precedes_trans Edit.precedes_total tied
    List.filter_sublist).filter (Edit.insertsAt place)
  rw [List.filter_filter] at sub
  simp only [Bool.and_self] at sub
  exact (sub.eq_of_length (perm.filter _).length_eq.symm).symm

/-- A reordered batch makes the same of every place. -/
theorem Reorders.emittedAt_eq {first second : List Edit} (same : Reorders first second)
    (buffer : Bytes) : emittedAt buffer first = emittedAt buffer second := by
  funext place
  have texts : textsAt (insertions first) place = textsAt (insertions second) place := by
    rw [textsAt_eq, textsAt_eq, same.2 place]
  have covered : deleted first place = deleted second place := same.1.any_eq
  rw [emittedAt, emittedAt, weaveAt, weaveAt, texts, covered]

/-- Some stretch holds the whole buffer and the places of all edits. -/
theorem exists_stretch (size : Nat) (edits : List Edit) :
    ∃ (start : Int) (count : Nat), start ≤ 0 ∧ size ≤ start + count ∧
      ∀ edit ∈ edits, start ≤ edit.position ∧ edit.position < start + count := by
  induction edits with
  | nil => exact ⟨0, size, by omega, by omega, by simp⟩
  | cons edit rest ih =>
    obtain ⟨start, count, low, high, within⟩ := ih
    let wide := min start edit.position
    let stop := max (start + count) (edit.position + 1)
    refine ⟨wide, (stop - wide).toNat, by omega, by omega, fun other member => ?_⟩
    rcases List.mem_cons.mp member with rfl | member
    · omega
    · have bound := within other member
      omega

/-- Outside a stretch that holds the buffer and all edits, nothing is given. -/
theorem emittedAt_supportedOn {buffer : Bytes} {edits : List Edit} {start : Int} {count : Nat}
    (low : start ≤ 0) (high : buffer.length ≤ start + count)
    (within : ∀ edit ∈ edits, start ≤ edit.position ∧ edit.position < start + count) :
    SupportedOn (emittedAt buffer edits) start count := by
  intro place given
  by_contra outside
  apply given
  have silent : textsAt (insertions edits) place = [] := by
    apply textsAt_eq_nil
    intro edit member
    have bound := within edit member
    omega
  have empty : byteAt buffer place = [] := by
    by_cases negative : place < 0
    · exact byteAt_of_neg negative
    · exact byteAt_of_length_le (by omega)
  simp [emittedAt, weaveAt, silent, empty]

/-- Splicing a batch into a buffer is reading off what the batch makes of every place. -/
theorem splice_sweeps (buffer : Bytes) (edits : List Edit) :
    Sweeps (emittedAt buffer edits) (splice buffer edits) := by
  obtain ⟨start, count, low, high, within⟩ :=
    exists_stretch buffer.length (edits.mergeSort Edit.precedes)
  have sorted := (List.pairwise_mergeSort Edit.precedes_trans Edit.precedes_total edits).imp
    Edit.position_le_of_precedes
  rw [← (mergeSort_reorders edits).emittedAt_eq]
  refine ⟨start, count, emittedAt_supportedOn low high within, ?_⟩
  rw [splice, spliceFrom_eq_sweep buffer _ 0 start count sorted within low high]
  apply sweep_congr
  intro place _ _
  apply weaveAt_congr
  intro nonnegative
  have settled : decide (place < ((0 : Nat) : Int)) = false := by
    rw [decide_eq_false_iff_not]
    omega
  rw [settled, Bool.false_or]

/-- A reordered batch has the same outcome. -/
theorem Reorders.splice_eq {first second : List Edit} (same : Reorders first second)
    (buffer : Bytes) : splice buffer first = splice buffer second := by
  have read := splice_sweeps buffer first
  rw [same.emittedAt_eq] at read
  exact read.unique (splice_sweeps buffer second)

/-- Applying the staged edits gives exactly what is read off place by place, whatever their
places and lengths, and it gives the same for every order of staging that keeps insertions at one
place in theirs. -/
theorem apply_eq_iff_sweeps (editor : Editor) :
    (∀ bytes, editor.apply.buffer = bytes ↔
      Sweeps (emittedAt editor.buffer editor.pending) bytes) ∧
    ∀ pending, Reorders pending editor.pending →
      Editor.apply { editor with pending } = editor.apply := by
  have read := splice_sweeps editor.buffer editor.pending
  refine ⟨fun bytes => ⟨fun same => same ▸ read, fun other => read.unique other⟩, ?_⟩
  intro pending same
  have moved := splice_sweeps editor.buffer pending
  rw [same.emittedAt_eq] at moved
  rw [Editor.apply, Editor.apply, moved.unique read]

/-- Two insertions inside two overlapping deletions, one of which starts before the buffer. -/
theorem apply_overlapping_shuffled :
    Reorders
      [.deletion 1 2, .insertion 2 [88], .insertion 2 [89], .deletion (-3) 5]
      [.insertion 2 [88], .deletion (-3) 5, .insertion 2 [89], .deletion 1 2] ∧
    (Editor.apply
      { buffer := [97, 98, 99, 100]
        pending := [.deletion 1 2, .insertion 2 [88], .insertion 2 [89], .deletion (-3) 5] }).buffer
      = [88, 89, 100] := by
  have shuffled : Reorders
      [.deletion 1 2, .insertion 2 [88], .insertion 2 [89], .deletion (-3) 5]
      [.insertion 2 [88], .deletion (-3) 5, .insertion 2 [89], .deletion 1 2] := by
    refine ⟨by decide, fun place => ?_⟩
    by_cases here : (2 : Int) = place <;> simp [Edit.insertsAt, here]
  obtain ⟨read, moved⟩ := apply_eq_iff_sweeps
    { buffer := [97, 98, 99, 100]
      pending := [.insertion 2 [88], .deletion (-3) 5, .insertion 2 [89], .deletion 1 2] }
  refine ⟨shuffled, ?_⟩
  rw [moved _ shuffled, read]
  exact ⟨-3, 7, emittedAt_supportedOn (by decide) (by decide) (by decide), by decide⟩

end SchemaDoc.Editing
