import SchemaDoc.Proofs.Editing.Widening

/-!
# Option lists

An option list is a bracket, entries that one comma parts from each other, and blanks anywhere
around them. Each entry has its region in the text that the list stands in. The regions are in
order, and joining them joins neighbours only: a run of entries goes on over a gap, and ends
before an entry that is not in it.
-/
namespace SchemaDoc.Editing

open Text (Bytes isBlankByte)

/-! ### Lists -/

/-- A run of blanks, which may be empty. -/
structure Blanks where
  bytes : Bytes
  blank : ∀ byte ∈ bytes, isBlankByte byte = true

/-- What parts two entries: a comma, and blanks around it. -/
structure Gap where
  before : Blanks
  after : Blanks

/-- An entry of a list. It does not begin or end as what may stand around it does. -/
structure ListEntry where
  content : Bytes
  opens : ∃ byte rest, content = byte :: rest ∧ isSeparator byte = false ∧ byte ≠ 0x5D
  closes : ∃ rest byte, content = rest ++ [byte] ∧ isSeparator byte = false ∧ byte ≠ 0x5B

/-- A list in brackets with at least one entry. -/
structure OptionList where
  lead : Blanks
  first : ListEntry
  others : List (Gap × ListEntry)
  trail : Blanks

/-- The bytes of a gap. -/
def Gap.bytes (gap : Gap) : Bytes :=
  gap.before.bytes ++ 0x2C :: gap.after.bytes

/-- The bytes of further entries, each behind its gap. -/
def othersBytes : List (Gap × ListEntry) → Bytes
  | [] => []
  | (gap, entry) :: rest => gap.bytes ++ (entry.content ++ othersBytes rest)

/-- A list from behind its first entry on, with the text that follows it. -/
def listEnd (others : List (Gap × ListEntry)) (trail : Blanks) (rest : Bytes) : Bytes :=
  othersBytes others ++ (trail.bytes ++ 0x5D :: rest)

namespace OptionList

/-- The entries of a list, in order. -/
def entries (list : OptionList) : List ListEntry :=
  list.first :: list.others.map (·.2)

/-- The bytes of a list, brackets included. -/
def bytes (list : OptionList) : Bytes :=
  0x5B :: (list.lead.bytes ++ (list.first.content ++
    (othersBytes list.others ++ (list.trail.bytes ++ [0x5D]))))

end OptionList

/-- The regions of further entries, the first of which has its gap at a place. -/
def othersSpans (place : Nat) : List (Gap × ListEntry) → List Region
  | [] => []
  | (gap, entry) :: rest =>
    let start := place + gap.bytes.length
    let stop := start + entry.content.length
    .between start stop :: othersSpans stop rest

/-- The regions of the entries of a list that stands at a place. -/
def OptionList.spans (list : OptionList) (place : Nat) : List Region :=
  let start := place + 1 + list.lead.bytes.length
  let stop := start + list.first.content.length
  .between start stop :: othersSpans stop list.others

/-- The items of a list whose indices are chosen. -/
def pick {Item : Type} (chosen : Nat → Bool) : List Item → List Item
  | [] => []
  | item :: rest =>
    let more := pick (fun index => chosen (index + 1)) rest
    if chosen 0 then item :: more else more

variable {gap : Gap} {entry : ListEntry} {more : List (Gap × ListEntry)} {trail : Blanks}
  {rest : Bytes}

@[simp] theorem listEnd_nil : listEnd [] trail rest = trail.bytes ++ 0x5D :: rest := rfl

@[simp] theorem listEnd_cons : listEnd ((gap, entry) :: more) trail rest =
    gap.bytes ++ (entry.content ++ listEnd more trail rest) := by
  simp [listEnd, othersBytes]

theorem OptionList.bytes_append (list : OptionList) (rest : Bytes) :
    list.bytes ++ rest = [0x5B] ++ (list.lead.bytes ++ (list.first.content ++
      listEnd list.others list.trail rest)) := by
  simp [bytes, listEnd]

theorem pick_sublist {Item : Type} (chosen : Nat → Bool) (items : List Item) :
    (pick chosen items).Sublist items := by
  induction items generalizing chosen with
  | nil => exact List.Sublist.slnil
  | cons item rest ih =>
    rw [pick]
    split
    · exact (ih _).cons_cons item
    · exact (ih _).cons item

theorem ListEntry.length_pos (entry : ListEntry) : 0 < entry.content.length := by
  obtain ⟨byte, rest, same, _⟩ := entry.opens
  simp [same]

theorem isSeparator_of_mem_gap {byte : UInt8} (member : byte ∈ gap.bytes) :
    isSeparator byte = true := by
  rcases List.mem_append.mp member with before | after
  · exact isSeparator_of_isBlankByte byte (gap.before.blank byte before)
  · rcases List.mem_cons.mp after with rfl | after
    · rfl
    · exact isSeparator_of_isBlankByte byte (gap.after.blank byte after)

/-! ### Places that part a buffer -/

/-- A place parts a buffer into what stands before it and what stands behind it. -/
structure Splits (buffer before after : Bytes) (place : Nat) : Prop where
  parts : buffer = before ++ after
  here : place = before.length

namespace Splits

variable {buffer before middle after : Bytes} {place : Nat}

theorem length (splits : Splits buffer before after place) :
    buffer.length = place + after.length := by
  rw [splits.parts, splits.here, List.length_append]

theorem take (splits : Splits buffer before after place) : buffer.take place = before := by
  rw [splits.parts, splits.here, List.take_left]

theorem drop (splits : Splits buffer before after place) : buffer.drop place = after := by
  rw [splits.parts, splits.here, List.drop_left]

/-- The place behind some of what stands next. -/
theorem step (splits : Splits buffer before (middle ++ after) place) :
    Splits buffer (before ++ middle) after (place + middle.length) where
  parts := by rw [splits.parts, List.append_assoc]
  here := by rw [splits.here, List.length_append]

theorem sliceTo (splits : Splits buffer before after place) :
    Editing.sliceTo buffer place = before := by
  have size := splits.length
  rw [sliceTo_natCast (by omega), splits.take]

theorem sliceFrom (splits : Splits buffer before after place) :
    Editing.sliceFrom buffer place = after := by
  have size := splits.length
  rw [sliceFrom_natCast (by omega), splits.drop]

theorem slice (splits : Splits buffer before (middle ++ after) place) :
    Editing.slice buffer place (place + middle.length : Nat) = middle := by
  have low := splits.length
  have high := splits.step.length
  rw [slice_natCast (by omega) (by omega), splits.step.take, splits.here, List.drop_left]

/-- A slice of one byte shows what starts at its place. -/
theorem slice_single (splits : Splits buffer before after place) :
    Editing.slice buffer place (place + 1) = after.take 1 := by
  have size := splits.length
  rw [slice_succ (by omega), ← List.head?_drop, splits.drop, List.take_one]

end Splits

/-! ### Where the entries stand -/

theorem slice_othersSpans {buffer before : Bytes} {others : List (Gap × ListEntry)} {place : Nat}
    (behind : Splits buffer before (listEnd others trail rest) place) :
    (othersSpans place others).map (fun region => slice buffer region.start region.stop) =
      others.map (·.2.content) := by
  induction others generalizing before place with
  | nil => rfl
  | cons item more ih =>
    rw [listEnd_cons] at behind
    rw [othersSpans, List.map_cons, Region.between_start, Region.between_stop, behind.step.slice,
      ih behind.step.step, List.map_cons]

/-- The regions of the entries hold the entries, and nothing else. -/
theorem OptionList.slice_spans (decl rest : Bytes) (list : OptionList) :
    (list.spans decl.length).map
        (fun region => slice (decl ++ (list.bytes ++ rest)) region.start region.stop) =
      list.entries.map (·.content) := by
  have bracket : Splits (decl ++ (list.bytes ++ rest)) decl _ decl.length :=
    ⟨congrArg (decl ++ ·) (list.bytes_append rest), rfl⟩
  have first := bracket.step.step
  rw [spans, List.map_cons, Region.between_start, Region.between_stop]
  rw [List.length_singleton] at first
  rw [first.slice, slice_othersSpans first.step, entries, List.map_cons, List.map_map]
  rfl

theorem mem_othersSpans {place : Nat} {others : List (Gap × ListEntry)} {region : Region}
    (member : region ∈ othersSpans place others) :
    ∃ start last : Nat, region = .between start last ∧ place ≤ start := by
  induction others generalizing place with
  | nil => cases member
  | cons item rest ih =>
    rcases List.mem_cons.mp member with rfl | inside
    · exact ⟨_, _, rfl, by omega⟩
    · obtain ⟨start, last, same, bound⟩ := ih inside
      exact ⟨start, last, same, by omega⟩

theorem precedes_of_mem {start stop : Nat} {others : List (Gap × ListEntry)} (filled : start < stop)
    {region : Region} (member : region ∈ othersSpans stop others) :
    (Region.between start stop).precedes region = true := by
  obtain ⟨first, last, rfl, bound⟩ := mem_othersSpans member
  have below : (Region.between start stop).start < (Region.between first last).start := by
    rw [Region.between_start, Region.between_start]
    omega
  exact Bool.or_eq_true_iff.mpr (Or.inl (decide_eq_true below))

theorem othersSpans_ordered (place : Nat) (others : List (Gap × ListEntry)) :
    (othersSpans place others).Pairwise fun first second => first.precedes second = true := by
  induction others generalizing place with
  | nil => exact List.Pairwise.nil
  | cons item rest ih =>
    have filled := item.2.length_pos
    exact List.pairwise_cons.mpr ⟨fun _ member => precedes_of_mem (by omega) member, ih _⟩

theorem OptionList.spans_ordered (list : OptionList) (place : Nat) :
    (list.spans place).Pairwise fun first second => first.precedes second = true := by
  have filled := list.first.length_pos
  exact List.pairwise_cons.mpr
    ⟨fun _ member => precedes_of_mem (by omega) member, othersSpans_ordered _ _⟩

/-! ### Joining entries -/

/-- Join the regions of an ordered list that only separators part. -/
def mergeOrdered (buffer : Bytes) : List Region → List Region
  | [] => []
  | first :: rest => mergeFrom buffer first rest

/-- Regions in any order are joined as they are in order. -/
theorem mergeAdjacent_eq {buffer : Bytes} {regions ordered : List Region}
    (perm : regions.Perm ordered)
    (sorted : ordered.Pairwise fun first second => first.precedes second = true) :
    mergeAdjacent buffer regions = mergeOrdered buffer ordered := by
  have same : regions.mergeSort Region.precedes = ordered := by
    refine List.Perm.eq_of_pairwise (fun first second _ _ one two => ?_)
      (List.pairwise_mergeSort Region.precedes_trans Region.precedes_total regions) sorted
      ((List.mergeSort_perm regions Region.precedes).trans perm)
    -- Regions that precede each other have both ends in common.
    simp only [Region.precedes, Bool.or_eq_true, Bool.and_eq_true, decide_eq_true_eq,
      beq_iff_eq] at one two
    cases first
    cases second
    simp only [Region.mk.injEq] at *
    omega
  rw [mergeAdjacent, same]
  cases ordered <;> rfl

section Joining

variable {buffer before after : Bytes} {first stop : Nat} {chosen : Nat → Bool}

/-- A run goes on over a gap if the entry behind that is taken, too. -/
theorem mergeFrom_taken (behind : Splits buffer before (gap.bytes ++ after) stop)
    (taken : chosen 0 = true) :
    let next := stop + gap.bytes.length + entry.content.length
    mergeFrom buffer (.between first stop) (pick chosen (othersSpans stop ((gap, entry) :: more))) =
      mergeFrom buffer (.between first next)
        (pick (fun index => chosen (index + 1)) (othersSpans next more)) := by
  intro next
  have separators : gap.bytes.all isSeparator = true :=
    List.all_eq_true.mpr fun _ => isSeparator_of_mem_gap
  have longer : max (Region.between first stop).length ((next : Int) - first) =
      (next : Int) - first := by
    simp only [Region.between]
    omega
  rw [othersSpans, pick, if_pos taken, mergeFrom]
  simp only [Region.between_start, Region.between_stop]
  rw [behind.slice, if_pos separators, longer]
  rfl

/-- A run ends before an entry that is left. -/
theorem mergeFrom_left
    (behind : Splits buffer before (gap.bytes ++ (entry.content ++ after)) stop)
    (spared : chosen 0 = false) :
    mergeFrom buffer (.between first stop) (pick chosen (othersSpans stop ((gap, entry) :: more))) =
      .between first stop :: mergeOrdered buffer (pick (fun index => chosen (index + 1))
        (othersSpans (stop + gap.bytes.length + entry.content.length) more)) := by
  rw [othersSpans, pick, if_neg (by simp [spared])]
  cases picked : pick (fun index => chosen (index + 1))
      (othersSpans (stop + gap.bytes.length + entry.content.length) more) with
  | nil => rfl
  | cons next others =>
    have member : next ∈ othersSpans (stop + gap.bytes.length + entry.content.length) more :=
      (pick_sublist _ _).subset (picked ▸ List.mem_cons_self)
    obtain ⟨start, last, rfl, far⟩ := mem_othersSpans member
    obtain ⟨byte, tail, opens, apart, _⟩ := entry.opens
    -- The slice up to the next region shows the first byte of the entry.
    have solid : (slice buffer stop start).all isSeparator = false := by
      have low := behind.length
      have filled := entry.length_pos
      simp only [List.length_append] at low
      have limit : stop + gap.bytes.length < clip buffer.length start := by
        rw [clip, if_neg (by omega)]
        omega
      have stands : buffer[stop + gap.bytes.length]? = some byte := by
        have shown := congrArg (·[0]?) behind.step.drop
        simpa [opens] using shown
      refine List.all_eq_false.mpr
        ⟨byte, List.mem_of_getElem? (i := gap.bytes.length) ?_, by simp [apart]⟩
      rw [slice, clip_of_le (by omega), List.getElem?_drop, List.getElem?_take_of_lt limit, stands]
    rw [mergeFrom, Region.between_start, Region.between_stop, solid]
    rfl

end Joining

end SchemaDoc.Editing
