import SchemaDoc.Proofs.Editing.OptionList
import SchemaDoc.Proofs.Text.Blank

/-!
# Removing entries from an option list

When any entries of an option list are removed, those that are left form such a list in the same
brackets; when all of them are, the list goes with the blanks before it.

The proof walks over the list from left to right with the entry at hand either left or taken. A
run of taken entries is one region after joining. Widened, it reaches back to the entry that was
left last, and ahead to the next comma, or to the closing bracket; if there is no entry before it,
to the next entry instead. `Leaves` is what the walk keeps up: the cuts that are still to come, and
what they leave of the buffer.
-/
namespace SchemaDoc.Editing

open Text (Bytes isBlankByte trimEnd)

/-! ### Cutting -/

/-- The deletion of a region. -/
def Region.deletion (region : Region) : Edit :=
  .deletion region.start region.length

/-- Regions in order, all at or behind a place, whose deletion leaves `text` of the buffer from
there on. -/
structure Leaves (buffer : Bytes) (place : Nat) (cuts : List Region) (text : Bytes) : Prop where
  ordered : cuts.Pairwise fun first second => first.start ≤ second.start
  later : ∀ cut ∈ cuts, (place : Int) ≤ cut.start
  splices : ∀ done ≤ place, spliceFrom buffer done (cuts.map Region.deletion) =
    (buffer.take place).drop done ++ text

section Cutting

variable {buffer before middle after text : Bytes} {place stop : Nat} {cuts : List Region}

theorem Leaves.nothing (behind : Splits buffer before after place) :
    Leaves buffer place [] after where
  ordered := List.Pairwise.nil
  later := by simp
  splices := by
    intro done reached
    have inside : done ≤ before.length := behind.here ▸ reached
    rw [List.map_nil, spliceFrom_nil, behind.take, behind.parts,
      List.drop_append_of_le_length inside]

/-- What stands before the first cut is left, too. -/
theorem Leaves.back (behind : Splits buffer before (middle ++ after) place)
    (leaves : Leaves buffer (place + middle.length) cuts text) :
    Leaves buffer place cuts (middle ++ text) where
  ordered := leaves.ordered
  later := by
    intro cut member
    have bound := leaves.later cut member
    omega
  splices := by
    intro done reached
    have inside : done ≤ before.length := behind.here ▸ reached
    rw [leaves.splices done (by omega), behind.step.take, behind.take,
      List.drop_append_of_le_length inside, List.append_assoc]

theorem Leaves.whole (parts : buffer = before ++ after)
    (leaves : Leaves buffer before.length cuts text) : Leaves buffer 0 cuts (before ++ text) := by
  have start : Splits buffer [] (before ++ after) 0 := ⟨parts, rfl⟩
  exact Leaves.back start (by rwa [Nat.zero_add])

/-- One more cut before the others. -/
theorem Leaves.cut (forward : place ≤ stop) (leaves : Leaves buffer stop cuts text) :
    Leaves buffer place (.between place stop :: cuts) text where
  ordered := by
    refine List.pairwise_cons.mpr ⟨fun cut member => ?_, leaves.ordered⟩
    have bound := leaves.later cut member
    rw [Region.between_start]
    omega
  later := by
    intro cut member
    rcases List.mem_cons.mp member with rfl | member
    · exact Int.le_refl _
    · have bound := leaves.later cut member
      omega
  splices := by
    intro done reached
    have reach : max (max done place) ((Region.between place stop).start +
        (Region.between place stop).length).toNat = stop := by
      have last := Region.between_stop place stop
      rw [Region.stop] at last
      omega
    -- The cursor stands at the end of the cut, so nothing is copied before the next one.
    have nothing : (buffer.take stop).drop stop = [] :=
      List.drop_eq_nil_of_le (List.length_take_le stop buffer)
    rw [List.map_cons, Region.deletion, spliceFrom]
    simp only [Edit.position, Region.between_start, Int.toNat_natCast] at reach ⊢
    rw [reach, leaves.splices stop (Nat.le_refl stop), nothing, List.nil_append]

theorem Leaves.apply_eq (leaves : Leaves buffer 0 cuts text) :
    (Editor.apply { buffer, pending := cuts.map Region.deletion }).buffer = text := by
  have sorted : (cuts.map Region.deletion).mergeSort Edit.precedes = cuts.map Region.deletion := by
    apply List.mergeSort_of_pairwise
    rw [List.pairwise_map]
    refine leaves.ordered.imp fun {first second} order => ?_
    rcases Int.lt_or_eq_of_le order with below | same
    · exact Bool.or_eq_true_iff.mpr (Or.inl (decide_eq_true below))
    · refine Bool.or_eq_true_iff.mpr (Or.inr ?_)
      simp [Region.deletion, Edit.position, Edit.rank, same]
  rw [Editor.apply, splice, sorted, leaves.splices 0 (Nat.le_refl 0)]
  rfl

end Cutting

/-! ### Trimming and counting -/

/-- Bytes that end as an entry does. -/
def EndsSolid (bytes : Bytes) : Prop :=
  ∃ rest byte, bytes = rest ++ [byte] ∧ isSeparator byte = false ∧ byte ≠ 0x5B

theorem ListEntry.endsSolid (before : Bytes) (entry : ListEntry) :
    EndsSolid (before ++ entry.content) := by
  obtain ⟨rest, byte, same, apart, unlike⟩ := entry.closes
  exact ⟨before ++ rest, byte, by rw [same, List.append_assoc], apart, unlike⟩

theorem ListEntry.head_solid (entry : ListEntry) (after : Bytes) :
    ∀ byte, (entry.content ++ after).head? = some byte →
      isSeparator byte = false ∧ byte ≠ 0x5D := by
  obtain ⟨first, rest, same, apart, unlike⟩ := entry.opens
  intro byte shown
  rw [same] at shown
  cases shown
  exact ⟨apart, unlike⟩

/-- Trimming stops where a byte does not satisfy the test. -/
theorem trimEnd_append {test : UInt8 → Bool} {head tail : Bytes} {last : UInt8}
    (keeps : test last = false) (all : ∀ byte ∈ tail, test byte = true) :
    trimEnd test (head ++ [last] ++ tail) = head ++ [last] := by
  rw [List.append_assoc, List.singleton_append, Text.trimEnd_append_cons keeps,
    Text.trimEnd_blanks all]

/-- Counting stops where a byte does not satisfy the test. -/
theorem countWhile_append {test : UInt8 → Bool} {run rest : Bytes}
    (all : ∀ byte ∈ run, test byte = true)
    (stops : ∀ byte, rest.head? = some byte → test byte = false) :
    countWhile test (run ++ rest) = run.length := by
  rw [countWhile, List.takeWhile_append_of_pos all]
  cases rest with
  | nil => simp
  | cons byte more => simp [stops byte rfl]

/-! ### Runs of taken entries -/

/-- A run of taken entries goes from one place to another, with what stands before it and what
stands behind it. -/
structure Run (buffer before after : Bytes) (start stop : Nat) : Prop where
  starts : ∃ inner, Splits buffer before inner start
  stops : ∃ front, Splits buffer front after stop
  forward : start ≤ stop

section Runs

variable {buffer before middle after : Bytes} {start stop : Nat} {gap : Gap} {entry : ListEntry}
  {more : List (Gap × ListEntry)} {chosen : Nat → Bool}

theorem Splits.run (behind : Splits buffer before (middle ++ after) start) :
    Run buffer before after start (start + middle.length) :=
  ⟨⟨_, behind⟩, ⟨_, behind.step⟩, Nat.le_add_right _ _⟩

theorem Run.further (run : Run buffer before (middle ++ after) start stop) :
    Run buffer before after start (stop + middle.length) := by
  obtain ⟨front, stops⟩ := run.stops
  exact ⟨run.starts, ⟨_, stops.step⟩, Nat.le_add_right_of_le run.forward⟩

theorem Run.length_le (run : Run buffer before after start stop) : before.length ≤ stop := by
  obtain ⟨⟨_, starts⟩, _, forward⟩ := run
  rw [← starts.here]
  exact forward

/-- A run behind an entry that is left reaches back to it, and ahead to where the blanks end. -/
theorem widenEntry_behind {head seps blanks : Bytes}
    (run : Run buffer (head ++ seps) (blanks ++ after) start stop) (solid : EndsSolid head)
    (separators : ∀ byte ∈ seps, isSeparator byte = true)
    (blank : ∀ byte ∈ blanks, isBlankByte byte = true)
    (ends : ∀ byte, after.head? = some byte → isBlankByte byte = false) :
    widenEntry buffer (.between start stop) = .between head.length (stop + blanks.length) := by
  obtain ⟨⟨inner, starts⟩, ⟨front, stops⟩, _⟩ := run
  obtain ⟨rest, last, rfl, apart, unlike⟩ := solid
  simp only [widenEntry, Region.between_start, Region.between_stop]
  rw [starts.sliceTo, stops.sliceFrom, trimEnd_append apart separators,
    countWhile_append blank ends, if_pos (by simpa using unlike)]
  rfl

/-- A run with no entry before it goes on over the separators behind it. What stands there decides
whether the brackets go. -/
theorem widenEntry_leading {decl lead blanks seps : Bytes}
    (run : Run buffer (decl ++ [0x5B] ++ lead) (blanks ++ (seps ++ after)) start stop)
    (leading : ∀ byte ∈ lead, isBlankByte byte = true)
    (blank : ∀ byte ∈ blanks, isBlankByte byte = true)
    (ends : ∀ byte, (seps ++ after).head? = some byte → isBlankByte byte = false)
    (separators : ∀ byte ∈ seps, isSeparator byte = true)
    (last : ∀ byte, after.head? = some byte → isSeparator byte = false) :
    widenEntry buffer (.between start stop) =
      if after.head? = some 0x5D then
        .between (trimEnd isBlankByte decl).length (stop + blanks.length + seps.length + 1)
      else .between (decl.length + 1) (stop + blanks.length + seps.length) := by
  obtain ⟨⟨inner, starts⟩, ⟨front, stops⟩, _⟩ := run
  have bracket : trimEnd isSeparator (decl ++ [0x5B] ++ lead) = decl ++ [0x5B] :=
    trimEnd_append rfl fun byte member => isSeparator_of_isBlankByte byte (leading byte member)
  have outer : sliceTo buffer (((decl ++ [0x5B]).length : Nat) - 1 : Int) = decl := by
    have opens : Splits buffer decl ([0x5B] ++ lead ++ inner) decl.length :=
      ⟨by simp [starts.parts], rfl⟩
    have before : (((decl ++ [0x5B]).length : Nat) - 1 : Int) = decl.length := by simp
    rw [before, opens.sliceTo]
  have shown : (after.take 1 != [0x5D]) = !decide (after.head? = some 0x5D) := by
    cases after with
    | nil => rfl
    | cons byte rest => by_cases same : byte = 0x5D <;> simp [bne, same]
  simp only [widenEntry, Region.between_start, Region.between_stop]
  rw [starts.sliceTo, stops.sliceFrom, bracket, countWhile_append blank ends, ← Int.natCast_add,
    stops.step.sliceFrom, countWhile_append separators last, ← Int.natCast_add,
    stops.step.step.slice_single, outer, shown, if_neg (by simp)]
  by_cases closed : after.head? = some 0x5D
  · simp [closed, Region.between]
  · simp [closed, Region.between]

end Runs

/-! ### The walk -/

/-- From a place on, some entries are left, with the closing bracket and the rest of the text. -/
def Remains (buffer : Bytes) (place : Nat) (cuts : List Region) (left : List ListEntry)
    (rest : Bytes) : Prop :=
  ∃ (others : List (Gap × ListEntry)) (trail : Blanks), others.map (·.2) = left ∧
    Leaves buffer place cuts (listEnd others trail rest)

/-- What is claimed of further entries when the entry before them is left. -/
def AfterLeft (chosen : Nat → Bool) (others : List (Gap × ListEntry)) : Prop :=
  ∀ (buffer before rest : Bytes) (trail : Blanks) (place : Nat),
    Splits buffer before (listEnd others trail rest) place → EndsSolid before →
    Remains buffer place
      ((mergeOrdered buffer (pick chosen (othersSpans place others))).map (widenEntry buffer))
      (pick (fun index => !chosen index) (others.map (·.2))) rest

/-- What is claimed of further entries when the entry before them is in a run of taken ones that
is behind an entry that is left. -/
def AfterTaken (chosen : Nat → Bool) (others : List (Gap × ListEntry)) : Prop :=
  ∀ (buffer before seps rest : Bytes) (trail : Blanks) (start stop : Nat),
    Run buffer (before ++ seps) (listEnd others trail rest) start stop → EndsSolid before →
    (∀ byte ∈ seps, isSeparator byte = true) →
    Remains buffer before.length
      ((mergeFrom buffer (.between start stop) (pick chosen (othersSpans stop others))).map
        (widenEntry buffer))
      (pick (fun index => !chosen index) (others.map (·.2))) rest

/-- No blanks. -/
def noBlanks : Blanks :=
  ⟨[], fun _ member => nomatch member⟩

/-- The gap that is left where a run behind an entry is taken. -/
def Gap.shortened (gap : Gap) : Gap :=
  { gap with before := noBlanks }

variable {chosen : Nat → Bool} {gap : Gap} {entry : ListEntry} {more : List (Gap × ListEntry)}

theorem Gap.bytes_append (gap : Gap) (text : Bytes) :
    gap.bytes ++ text = gap.before.bytes ++ (gap.shortened.bytes ++ text) := by
  simp [bytes, shortened, noBlanks]

theorem Gap.length_bytes (gap : Gap) :
    gap.bytes.length = gap.before.bytes.length + gap.shortened.bytes.length := by
  simp [bytes, shortened, noBlanks]

theorem afterLeft_nil : AfterLeft chosen [] :=
  fun _ _ _ trail _ behind _ => ⟨[], trail, rfl, .nothing behind⟩

theorem afterTaken_nil : AfterTaken chosen [] := by
  intro buffer before seps rest trail start stop run solid separators
  rw [listEnd_nil] at run
  have wide := widenEntry_behind run solid separators trail.blank (by simp; decide)
  have reach : before.length ≤ stop + trail.bytes.length := by
    have place := run.length_le
    rw [List.length_append] at place
    omega
  obtain ⟨front, stops⟩ := run.stops
  refine ⟨[], noBlanks, rfl, ?_⟩
  simp only [othersSpans, pick, mergeFrom, List.map_cons, List.map_nil, wide]
  exact (Leaves.nothing stops.step).cut reach

/-- The next entry is taken, too: the run goes on. -/
theorem afterTaken_taken (taken : chosen 0 = true)
    (ih : AfterTaken (fun index => chosen (index + 1)) more) :
    AfterTaken chosen ((gap, entry) :: more) := by
  intro buffer before seps rest trail start stop run solid separators
  rw [listEnd_cons] at run
  obtain ⟨front, stops⟩ := run.stops
  have joined := ih buffer before seps rest trail start _ run.further.further solid separators
  rw [mergeFrom_taken stops taken]
  simpa [pick, taken] using joined

/-- The next entry is left: the run ends at the comma before it. -/
theorem afterTaken_left (spared : chosen 0 = false)
    (ih : AfterLeft (fun index => chosen (index + 1)) more) :
    AfterTaken chosen ((gap, entry) :: more) := by
  intro buffer before seps rest trail start stop run solid separators
  rw [listEnd_cons] at run
  obtain ⟨front, stops⟩ := run.stops
  obtain ⟨others, trail', same, leaves⟩ :=
    ih buffer _ rest trail _ stops.step.step (entry.endsSolid _)
  refine ⟨(gap.shortened, entry) :: others, trail', by simp [pick, spared, same], ?_⟩
  rw [mergeFrom_left stops spared, List.map_cons, listEnd_cons]
  -- The comma stays with the entry that is left.
  rw [Gap.bytes_append] at run stops
  have wide := widenEntry_behind run solid separators gap.before.blank
    (by simp [Gap.bytes, Gap.shortened, noBlanks]; decide)
  have reach : before.length ≤ stop + gap.before.bytes.length := by
    have place := run.length_le
    rw [List.length_append] at place
    omega
  rw [Gap.length_bytes, ← Nat.add_assoc] at leaves ⊢
  rw [wide]
  exact ((leaves.back stops.step.step).back stops.step).cut reach

/-- The next entry is taken: a run begins. -/
theorem afterLeft_taken (taken : chosen 0 = true)
    (ih : AfterTaken (fun index => chosen (index + 1)) more) :
    AfterLeft chosen ((gap, entry) :: more) := by
  intro buffer before rest trail place behind solid
  rw [listEnd_cons] at behind
  have joined := ih buffer before gap.bytes rest trail _ _ behind.step.run solid
    fun _ => isSeparator_of_mem_gap
  rw [behind.here] at *
  simpa [othersSpans, pick, taken, mergeOrdered] using joined

/-- The next entry is left as well. -/
theorem afterLeft_left (spared : chosen 0 = false)
    (ih : AfterLeft (fun index => chosen (index + 1)) more) :
    AfterLeft chosen ((gap, entry) :: more) := by
  intro buffer before rest trail place behind solid
  rw [listEnd_cons] at behind
  obtain ⟨others, trail', same, leaves⟩ :=
    ih buffer _ rest trail _ behind.step.step (entry.endsSolid _)
  refine ⟨(gap, entry) :: others, trail', by simp [pick, spared, same], ?_⟩
  rw [listEnd_cons]
  have back := (leaves.back behind.step).back behind
  simpa [othersSpans, pick, spared] using back

theorem afterLeft_afterTaken (chosen : Nat → Bool) (others : List (Gap × ListEntry)) :
    AfterLeft chosen others ∧ AfterTaken chosen others := by
  -- Both at once, as each of the two states may pass into the other at the next entry.
  induction others generalizing chosen with
  | nil => exact ⟨afterLeft_nil, afterTaken_nil⟩
  | cons item more ih =>
    obtain ⟨left, taken⟩ := ih fun index => chosen (index + 1)
    cases first : chosen 0 with
    | true => exact ⟨afterLeft_taken first taken, afterTaken_taken first taken⟩
    | false => exact ⟨afterLeft_left first left, afterTaken_left first left⟩

/-! ### The first run -/

/-- What is left of a declaration with an option list: the list of the entries that are left, or
no list and no blanks before it. -/
def Clears (buffer decl rest : Bytes) (cuts : List Region) (left : List ListEntry) : Prop :=
  (left ≠ [] → ∃ list : OptionList, list.entries = left ∧
    Leaves buffer 0 cuts (decl ++ (list.bytes ++ rest))) ∧
  (left = [] → Leaves buffer 0 cuts (trimEnd isBlankByte decl ++ rest))

/-- What is claimed of further entries when all the entries before them are taken. -/
def AfterAllTaken (chosen : Nat → Bool) (others : List (Gap × ListEntry)) : Prop :=
  ∀ (buffer decl rest : Bytes) (lead trail : Blanks) (start stop : Nat),
    Run buffer (decl ++ [0x5B] ++ lead.bytes) (listEnd others trail rest) start stop →
    Clears buffer decl rest
      ((mergeFrom buffer (.between start stop) (pick chosen (othersSpans stop others))).map
        (widenEntry buffer))
      (pick (fun index => !chosen index) (others.map (·.2)))

theorem afterAllTaken_nil : AfterAllTaken chosen [] := by
  intro buffer decl rest lead trail start stop run
  rw [listEnd_nil] at run
  -- Nothing but the closing bracket is behind the run, so the brackets go with it.
  have closing : Run buffer _ (trail.bytes ++ ([] ++ 0x5D :: rest)) start stop := run
  have wide := widenEntry_leading closing lead.blank trail.blank (by simp; decide) (by simp)
    (by simp; decide)
  obtain ⟨blanks, trimmed, _⟩ := Text.trimEnd_append_blanks isBlankByte decl
  have longer := run.length_le
  obtain ⟨⟨inner, starts⟩, ⟨front, stops⟩, _⟩ := run
  refine ⟨fun some => absurd rfl some, fun _ => ?_⟩
  simp only [othersSpans, pick, mergeFrom, List.map_cons, List.map_nil, wide, List.head?_cons,
    if_true]
  generalize trimEnd isBlankByte decl = kept at *
  have parts : buffer = kept ++ (blanks ++ [0x5B] ++ lead.bytes ++ inner) := by
    simp [starts.parts, trimmed]
  have reach : kept.length ≤ stop + trail.bytes.length + ([] : Bytes).length + 1 := by
    simp only [trimmed, List.length_append] at longer
    omega
  have bracket : Splits buffer (front ++ trail.bytes) ([0x5D] ++ rest) _ := stops.step
  exact ((Leaves.nothing bracket.step).cut reach).whole parts

theorem afterAllTaken_taken (taken : chosen 0 = true)
    (ih : AfterAllTaken (fun index => chosen (index + 1)) more) :
    AfterAllTaken chosen ((gap, entry) :: more) := by
  intro buffer decl rest lead trail start stop run
  rw [listEnd_cons] at run
  obtain ⟨front, stops⟩ := run.stops
  have joined := ih buffer decl rest lead trail start _ run.further.further
  rw [mergeFrom_taken stops taken]
  simpa [pick, taken] using joined

/-- The first entry that is left becomes the first of the list. -/
theorem afterAllTaken_left (spared : chosen 0 = false)
    (left : AfterLeft (fun index => chosen (index + 1)) more) :
    AfterAllTaken chosen ((gap, entry) :: more) := by
  intro buffer decl rest lead trail start stop run
  rw [listEnd_cons] at run
  obtain ⟨front, stops⟩ := run.stops
  obtain ⟨others, trail', same, leaves⟩ :=
    left buffer _ rest trail _ stops.step.step (entry.endsSolid _)
  refine ⟨fun _ => ⟨⟨noBlanks, entry, others, trail'⟩, ?_, ?_⟩, fun none => ?_⟩
  · simp [OptionList.entries, pick, spared, same]
  · rw [mergeFrom_left stops spared, List.map_cons]
    have back := leaves.back stops.step
    -- The cut starts behind the bracket and takes the whole gap.
    rw [Gap.bytes_append] at run
    have solid := entry.head_solid (listEnd more trail rest)
    have wide := widenEntry_leading run lead.blank gap.before.blank
      (by simp [Gap.bytes, Gap.shortened, noBlanks]; decide)
      (fun _ => isSeparator_of_mem_gap) fun byte shown => (solid byte shown).1
    rw [if_neg fun closed => (solid _ closed).2 rfl] at wide
    obtain ⟨inner, starts⟩ := run.starts
    have parts : buffer = (decl ++ [0x5B]) ++ (lead.bytes ++ inner) := by simp [starts.parts]
    have reach : decl.length + 1 ≤ stop + gap.before.bytes.length + gap.shortened.bytes.length := by
      have longer := run.length_le
      simp only [List.length_append, List.length_singleton] at longer
      omega
    rw [Gap.length_bytes, ← Nat.add_assoc] at back ⊢
    rw [wide]
    have cut := back.cut reach
    rw [← List.length_singleton, ← List.length_append] at cut
    simpa [OptionList.bytes_append, noBlanks] using cut.whole parts
  · simp [pick, spared] at none

theorem afterAllTaken (chosen : Nat → Bool) (others : List (Gap × ListEntry)) :
    AfterAllTaken chosen others := by
  induction others generalizing chosen with
  | nil => exact afterAllTaken_nil
  | cons item more ih =>
    cases first : chosen 0 with
    | true => exact afterAllTaken_taken first (ih _)
    | false => exact afterAllTaken_left first (afterLeft_afterTaken _ more).1

/-! ### The whole list -/

theorem clears_list (decl rest : Bytes) (list : OptionList) (chosen : Nat → Bool) :
    Clears (decl ++ (list.bytes ++ rest)) decl rest
      ((mergeOrdered (decl ++ (list.bytes ++ rest)) (pick chosen (list.spans decl.length))).map
        (widenEntry (decl ++ (list.bytes ++ rest))))
      (pick (fun index => !chosen index) list.entries) := by
  have bracket : Splits (decl ++ (list.bytes ++ rest)) decl _ decl.length :=
    ⟨congrArg (decl ++ ·) (list.bytes_append rest), rfl⟩
  generalize decl ++ (list.bytes ++ rest) = buffer at *
  have first := bracket.step.step
  cases taken : chosen 0 with
  | true =>
    have cleared := afterAllTaken (fun index => chosen (index + 1)) list.others buffer decl rest
      list.lead list.trail _ _ first.run
    simpa [OptionList.spans, OptionList.entries, pick, taken, mergeOrdered] using cleared
  | false =>
    obtain ⟨others, trail, same, leaves⟩ :=
      (afterLeft_afterTaken (fun index => chosen (index + 1)) list.others).1 buffer _ rest
        list.trail _ first.step (list.first.endsSolid _)
    refine ⟨fun _ => ⟨{ list with others, trail }, ?_, ?_⟩, fun none => ?_⟩
    · simp [OptionList.entries, pick, taken, same]
    · have back := ((leaves.back first).back bracket.step).back bracket
      have whole := Leaves.whole bracket.parts (bracket.here ▸ back)
      simpa [OptionList.bytes_append, OptionList.spans, pick, taken] using whole
    · simp [OptionList.entries, pick, taken] at none

/-- Deleting any entries of an option list, their regions given in any order, leaves the list of
the other entries with everything around it, or no list and no blanks where it stood. -/
theorem apply_removes_entries (decl rest : Bytes) (list : OptionList) (chosen : Nat → Bool)
    {regions : List Region} (spans : regions.Perm (pick chosen (list.spans decl.length))) :
    let buffer := decl ++ (list.bytes ++ rest)
    let wide := (mergeAdjacent buffer regions).map (widenEntry buffer)
    let pending := wide.map fun region => Edit.deletion region.start region.length
    let left := pick (fun index => !chosen index) list.entries
    (left ≠ [] → ∃ remaining : OptionList, remaining.entries = left ∧
      (Editor.apply { buffer, pending }).buffer = decl ++ (remaining.bytes ++ rest)) ∧
    (left = [] → (Editor.apply { buffer, pending }).buffer = trimEnd isBlankByte decl ++ rest) := by
  have sorted := (list.spans_ordered decl.length).sublist (pick_sublist chosen _)
  obtain ⟨some, none⟩ := clears_list decl rest list chosen
  simp only [mergeAdjacent_eq spans sorted]
  constructor
  · intro left
    obtain ⟨remaining, same, leaves⟩ := some left
    exact ⟨remaining, same, leaves.apply_eq⟩
  · intro left
    exact (none left).apply_eq

/-- An entry of one byte. -/
def singleEntry (byte : UInt8) (apart : isSeparator byte = false) (unlike : byte ≠ 0x5D)
    (different : byte ≠ 0x5B) : ListEntry where
  content := [byte]
  opens := ⟨byte, [], rfl, apart, unlike⟩
  closes := ⟨[], byte, rfl, apart, different⟩

/-- One space. -/
def oneSpace : Blanks :=
  ⟨[0x20], List.forall_mem_singleton.mpr rfl⟩

/-- The list `[A, B ,C ]`. -/
def letterList : OptionList where
  lead := noBlanks
  first := singleEntry 0x41 rfl (by decide) (by decide)
  others :=
    [(⟨noBlanks, oneSpace⟩, singleEntry 0x42 rfl (by decide) (by decide)),
     (⟨oneSpace, noBlanks⟩, singleEntry 0x43 rfl (by decide) (by decide))]
  trail := oneSpace

/-- Removing `C` and `A` from `x [A, B ,C ];` leaves a list of `B` alone. -/
theorem apply_removes_entries_letters :
    [Region.between 9 10, .between 3 4].Perm (pick (· != 1) (letterList.spans 2)) ∧
    ∃ remaining : OptionList,
      remaining.entries = [singleEntry 0x42 rfl (by decide) (by decide)] ∧
      (Editor.apply
        { buffer := [0x78, 0x20] ++ (letterList.bytes ++ [0x3B])
          pending := ((mergeAdjacent ([0x78, 0x20] ++ (letterList.bytes ++ [0x3B]))
            [Region.between 9 10, .between 3 4]).map
              (widenEntry ([0x78, 0x20] ++ (letterList.bytes ++ [0x3B])))).map
                fun region => Edit.deletion region.start region.length }).buffer =
        [0x78, 0x20] ++ (remaining.bytes ++ [0x3B]) := by
  have spans : [Region.between 9 10, .between 3 4].Perm (pick (· != 1) (letterList.spans 2)) := by
    decide
  exact ⟨spans, (apply_removes_entries [0x78, 0x20] [0x3B] letterList (· != 1) spans).1
    (by simp [pick, letterList, OptionList.entries])⟩

end SchemaDoc.Editing
