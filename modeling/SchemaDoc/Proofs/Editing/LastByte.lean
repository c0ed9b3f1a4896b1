import SchemaDoc.Proofs.Editing.Splice

/-!
# The end of what is read off

What a batch of edits makes of a buffer can be cut at any place, and at a place itself between two
of the texts that are inserted there. What comes before such a cut is what the same edits make of
the buffer up to the place, with the texts that were inserted before.

The last byte of it has one of two sources. It is a byte of the buffer that is kept while
everything behind it is removed, or it is the last byte of the text that was inserted last.
-/
namespace SchemaDoc.Editing

open Text (Bytes)

/-- What `emit` gives before a place, and `first` at it. -/
def upTo (emit : Int → Bytes) (place : Int) (first : Bytes) (other : Int) : Bytes :=
  if other < place then emit other else if other = place then first else []

/-- The byte at a place is kept, and nothing stands behind it any more. -/
structure LeftLast (buffer : Bytes) (removed : Int → Bool) (inserted : List (Int × Bytes))
    (place : Nat) : Prop where
  kept : removed place = false
  gone : ∀ later : Nat, place < later → later < buffer.length → removed later = true
  free : ∀ block ∈ inserted, block.1 ≤ place

/-- A text is inserted between others in such a way that nothing stands behind it. -/
structure PutLast (buffer : Bytes) (removed : Int → Bool) (front rest : List (Int × Bytes))
    (position : Int) : Prop where
  gone : ∀ later : Nat, position ≤ later → later < buffer.length → removed later = true
  earlier : ∀ block ∈ front, block.1 ≤ position
  later : ∀ block ∈ rest, block.1 < position

/-! ### Cutting -/

/-- What is read off can be cut at a place, within what stands there. -/
theorem Sweeps.cut {emit : Int → Bytes} {bytes first later : Bytes} {place : Int}
    (sweeps : Sweeps emit bytes) (parts : emit place = first ++ later) :
    ∃ before after, bytes = before ++ (later ++ after) ∧
      Sweeps (upTo emit place first) before := by
  obtain ⟨start, count, support, rfl⟩ := sweeps
  -- A stretch that holds the place falls into what is before it, the place, and what is behind it.
  let wide := min start place
  obtain ⟨ahead, reached⟩ : ∃ ahead : Nat, wide + ahead = place := ⟨(place - wide).toNat, by omega⟩
  obtain ⟨behind, covered⟩ : ∃ behind : Nat, start + count ≤ wide + (ahead + (1 + behind) : Nat) :=
    ⟨(start + count - wide).toNat, by omega⟩
  have single : sweep emit place 1 = first ++ later := by simp [sweep, parts]
  rw [← support.sweep_widen wide (ahead + (1 + behind)) (by omega) covered, sweep_add, reached,
    sweep_add, single]
  refine ⟨sweep emit wide ahead ++ first, sweep emit (place + 1) behind, by simp, wide, ahead + 1,
    ?_, ?_⟩
  · intro other given
    by_contra outside
    apply given
    rw [upTo]
    split
    · -- Before the wide stretch nothing is given at all.
      by_contra silent
      have inside := support other silent
      omega
    · rw [if_neg (by omega)]
  · rw [sweep_add, reached]
    congr 1
    · apply sweep_congr
      intro other _ below
      rw [upTo, if_pos (by omega)]
    · simp [sweep, upTo]

/-! ### The last place -/

theorem getLast?_sweep {emit : Int → Bytes} {start : Int} {count : Nat} {byte : UInt8} :
    (sweep emit start count).getLast? = some byte ↔
      ∃ place, (start ≤ place ∧ place < start + count) ∧ (emit place).getLast? = some byte ∧
        ∀ later, place < later → later < start + count → emit later = [] := by
  -- Counted down from the end, the last place that gives anything is the first one met.
  induction count with
  | zero =>
    constructor
    · nofun
    · rintro ⟨place, inside, _⟩
      omega
  | succ count ih =>
    have single : sweep emit (start + count) 1 = emit (start + count) := by simp [sweep]
    rw [sweep_add, single, List.getLast?_append]
    by_cases silent : emit (start + count) = []
    · rw [silent, List.getLast?_nil, Option.none_or, ih]
      constructor
      · rintro ⟨place, ⟨low, high⟩, last, behind⟩
        refine ⟨place, ⟨low, by omega⟩, last, fun later above below => ?_⟩
        by_cases final : later = start + count
        · rw [final, silent]
        · exact behind later above (by omega)
      · rintro ⟨place, ⟨low, high⟩, last, behind⟩
        have inner : place ≠ start + count := by
          rintro rfl
          rw [silent] at last
          cases last
        exact ⟨place, ⟨low, by omega⟩, last, fun later above below =>
          behind later above (by omega)⟩
    · rw [List.getLast?_eq_some_getLast silent, Option.some_or]
      constructor
      · intro same
        refine ⟨start + count, ⟨by omega, by omega⟩, ?_, fun later above below => by omega⟩
        rw [List.getLast?_eq_some_getLast silent, same]
      · rintro ⟨place, ⟨low, high⟩, last, behind⟩
        have final : place = start + count := by
          by_contra inner
          exact silent (behind (start + count) (by omega) (by omega))
        rw [← List.getLast?_eq_some_getLast silent, ← final, last]

/-- The last byte that is read off is the last one that stands at the last place with any. -/
theorem Sweeps.getLast?_eq_some {emit : Int → Bytes} {bytes : Bytes} {byte : UInt8}
    (sweeps : Sweeps emit bytes) :
    bytes.getLast? = some byte ↔
      ∃ place, (emit place).getLast? = some byte ∧ ∀ later, place < later → emit later = [] := by
  obtain ⟨start, count, support, rfl⟩ := sweeps
  rw [getLast?_sweep]
  constructor
  · rintro ⟨place, ⟨low, high⟩, last, behind⟩
    refine ⟨place, last, fun later above => ?_⟩
    by_contra given
    exact given (behind later above (support later given).2)
  · rintro ⟨place, last, behind⟩
    have given : emit place ≠ [] := by
      intro silent
      rw [silent] at last
      cases last
    exact ⟨place, support place given, last, fun later above _ => behind later above⟩

/-! ### Texts that are inserted -/

theorem textsAt_append (first second : List (Int × Bytes)) (place : Int) :
    textsAt (first ++ second) place = textsAt first place ++ textsAt second place := by
  rw [textsAt, List.filter_append, List.flatMap_append]
  rfl

theorem textsAt_filter (inserted : List (Int × Bytes)) (test : Int → Bool) (place : Int) :
    textsAt (inserted.filter fun block => test block.1) place =
      if test place then textsAt inserted place else [] := by
  induction inserted with
  | nil => simp [textsAt]
  | cons block rest ih =>
    obtain ⟨position, text⟩ := block
    by_cases here : position = place
    · subst here
      cases passes : test position <;> simp [passes, textsAt_cons, ih]
    · cases passes : test position <;> simp [passes, textsAt_cons, ih, here]

variable {buffer : Bytes} {removed : Int → Bool} {inserted : List (Int × Bytes)} {byte : UInt8}

/-- Where no text is inserted, none stands, as no inserted text is empty. -/
theorem textsAt_eq_nil_iff (filled : ∀ block ∈ inserted, block.2 ≠ []) {place : Int} :
    textsAt inserted place = [] ↔ ∀ block ∈ inserted, block.1 ≠ place := by
  simp only [textsAt, List.flatMap_eq_nil_iff, List.mem_filter, beq_iff_eq]
  constructor
  · exact fun silent block member here => filled block member (silent block ⟨member, here⟩)
  · exact fun elsewhere block listed => absurd listed.2 (elsewhere block listed.1)

/-- The texts at a place end as the last one does that is inserted there. -/
theorem getLast?_textsAt (filled : ∀ block ∈ inserted, block.2 ≠ []) {place : Int} :
    (textsAt inserted place).getLast? = some byte ↔
      ∃ front text rest, inserted = front ++ (place, text) :: rest ∧
        (∀ block ∈ rest, block.1 ≠ place) ∧ text.getLast? = some byte := by
  constructor
  · intro last
    -- The last of the texts is the first one behind which none stands at the place.
    induction inserted with
    | nil => cases last
    | cons block rest ih =>
      obtain ⟨position, text⟩ := block
      have filled' : ∀ block ∈ rest, block.2 ≠ [] := List.forall_mem_of_forall_mem_cons filled
      rw [textsAt_cons, List.getLast?_append] at last
      by_cases silent : textsAt rest place = []
      · rw [silent, List.getLast?_nil, Option.none_or] at last
        split at last
        next here =>
          subst here
          exact ⟨[], text, rest, rfl, (textsAt_eq_nil_iff filled').mp silent, last⟩
        · cases last
      · rw [List.getLast?_eq_some_getLast silent, Option.some_or,
          ← List.getLast?_eq_some_getLast silent] at last
        obtain ⟨front, found, others, rfl, behind⟩ := ih filled' last
        exact ⟨(position, text) :: front, found, others, rfl, behind⟩
  · rintro ⟨front, text, rest, rfl, elsewhere, last⟩
    have behind : textsAt rest place = [] :=
      (textsAt_eq_nil_iff fun block member => filled block (by simp [member])).mpr elsewhere
    rw [textsAt_append, textsAt_cons, if_pos rfl, behind, List.append_nil, List.getLast?_append,
      last, Option.some_or]

/-! ### Up to a text -/

theorem byteAt_take (buffer : Bytes) (stop : Nat) (place : Int) :
    byteAt (buffer.take stop) place = if place < stop then byteAt buffer place else [] := by
  by_cases negative : place < 0
  · simp [byteAt, negative]
  · obtain ⟨found, rfl⟩ : ∃ found : Nat, place = found := ⟨place.toNat, by omega⟩
    rw [byteAt_natCast, byteAt_natCast, List.getElem?_take]
    by_cases inside : found < stop <;> simp [inside]

/-- What stands before a text that is inserted among others. -/
def earlierBlocks (front rest : List (Int × Bytes)) (position : Int) : List (Int × Bytes) :=
  front.filter (fun block => block.1 ≤ position) ++ rest.filter (fun block => block.1 < position)

/-- Before an inserted text stands what becomes of the buffer up to its place, with the texts that
are inserted before it. -/
theorem Sweeps.cut_block {bytes text : Bytes} {position : Nat} {front rest : List (Int × Bytes)}
    (woven : Sweeps (weaveAt buffer removed (front ++ ((position : Int), text) :: rest)) bytes) :
    ∃ before after, bytes = before ++ (text ++ after) ∧
      Sweeps (weaveAt (buffer.take position) removed (earlierBlocks front rest position))
        before := by
  have parts : weaveAt buffer removed (front ++ ((position : Int), text) :: rest) position =
      textsAt front position ++ (text ++ (textsAt rest position ++
        if removed position then [] else byteAt buffer position)) := by
    rw [weaveAt, textsAt_append, textsAt_cons, if_pos rfl]
    simp
  obtain ⟨before, after, rfl, sweeps⟩ := woven.cut parts
  refine ⟨before, _, by rw [List.append_assoc], ?_⟩
  convert sweeps using 1
  funext place
  rw [upTo, weaveAt, weaveAt, earlierBlocks, textsAt_append,
    textsAt_filter front (fun other => decide (other ≤ position)),
    textsAt_filter rest (fun other => decide (other < position)), byteAt_take, textsAt_append,
    textsAt_cons]
  rcases Int.lt_trichotomy place position with below | here | above
  · simp [below, Int.le_of_lt below, show ((position : Int) ≠ place) by omega]
  · simp [here]
  · simp [show ¬ place < position by omega, show ¬ place ≤ position by omega,
      show place ≠ position by omega]

/-! ### The last byte -/

theorem weaveAt_eq_nil_iff (filled : ∀ block ∈ inserted, block.2 ≠ []) {place : Int} :
    weaveAt buffer removed inserted place = [] ↔
      (∀ block ∈ inserted, block.1 ≠ place) ∧
        (removed place = true ∨ byteAt buffer place = []) := by
  rw [weaveAt, List.append_eq_nil_iff, textsAt_eq_nil_iff filled]
  cases removed place <;> simp

theorem byteAt_ne_nil {place : Nat} (inside : place < buffer.length) :
    byteAt buffer place ≠ [] := by
  rw [byteAt_natCast, List.getElem?_eq_getElem inside]
  exact List.cons_ne_nil _ _

/-- Everything behind a place is silent if and only if it is removed and no text stands there. -/
theorem weaveAt_silent_iff (filled : ∀ block ∈ inserted, block.2 ≠ []) {place : Int} :
    (∀ later, place < later → weaveAt buffer removed inserted later = []) ↔
      (∀ later : Nat, place < later → later < buffer.length → removed later = true) ∧
        ∀ block ∈ inserted, block.1 ≤ place := by
  simp only [weaveAt_eq_nil_iff filled]
  constructor
  · intro silent
    refine ⟨fun later above inside => ?_, fun block member => ?_⟩
    · exact (silent later above).2.resolve_right (byteAt_ne_nil inside)
    · by_contra above
      exact (silent block.1 (by omega)).1 block member rfl
  · rintro ⟨gone, free⟩ later above
    refine ⟨fun block member here => ?_, ?_⟩
    · have bound := free block member
      omega
    · by_cases inside : 0 ≤ later ∧ later < buffer.length
      · obtain ⟨found, rfl⟩ : ∃ found : Nat, later = found := ⟨later.toNat, by omega⟩
        exact Or.inl (gone found above (by omega))
      · refine Or.inr ?_
        by_cases negative : later < 0
        · exact byteAt_of_neg negative
        · exact byteAt_of_length_le (by omega)

/-- The last byte of a woven text is a byte of the buffer that is left last, or it is the last byte
of a text that is put last. -/
theorem Sweeps.getLast?_weave {bytes : Bytes} (filled : ∀ block ∈ inserted, block.2 ≠ [])
    (woven : Sweeps (weaveAt buffer removed inserted) bytes) :
    bytes.getLast? = some byte ↔
      (∃ place, LeftLast buffer removed inserted place ∧ buffer[place]? = some byte) ∨
      ∃ front block rest, inserted = front ++ block :: rest ∧
        PutLast buffer removed front rest block.1 ∧ block.2.getLast? = some byte := by
  rw [woven.getLast?_eq_some]
  simp only [weaveAt_silent_iff filled]
  constructor
  · rintro ⟨place, last, gone, free⟩
    rw [weaveAt, List.getLast?_append] at last
    by_cases silent : removed place = true ∨ byteAt buffer place = []
    · -- Nothing of the buffer is left at the place, so a text ends there.
      have empty : (if removed place then [] else byteAt buffer place) = [] := by
        split
        · rfl
        next kept => exact silent.resolve_left kept
      rw [empty, List.getLast?_nil, Option.none_or, getLast?_textsAt filled] at last
      obtain ⟨front, text, rest, rfl, elsewhere, ends⟩ := last
      refine Or.inr ⟨front, (place, text), rest, rfl, ⟨?_, ?_, ?_⟩, ends⟩
      · intro later reached inside
        rcases Int.lt_or_eq_of_le reached with above | rfl
        · exact gone later above inside
        · exact silent.resolve_right (byteAt_ne_nil inside)
      · exact fun block member => free block (by simp [member])
      · intro block member
        have bound := free block (by simp [member])
        have other := elsewhere block member
        simp only at bound other ⊢
        omega
    · -- The byte of the buffer stands behind all texts that are inserted at its place.
      obtain ⟨kept, given⟩ := not_or.mp silent
      have inside : ¬ place < 0 := fun negative => given (byteAt_of_neg negative)
      obtain ⟨found, rfl⟩ : ∃ found : Nat, place = found := ⟨place.toNat, by omega⟩
      rw [if_neg kept, byteAt_natCast] at last
      rw [byteAt_natCast] at given
      obtain ⟨here, stands⟩ := Option.ne_none_iff_exists'.mp
        (fun none : buffer[found]? = none => given (by rw [none]; rfl))
      rw [stands, Option.toList_some, List.getLast?_singleton, Option.some_or] at last
      refine Or.inl ⟨found, ⟨by simpa using kept, ?_, free⟩, stands.trans last⟩
      exact fun later above => gone later (by omega)
  · rintro (⟨place, left, stands⟩ | ⟨front, ⟨position, text⟩, rest, rfl, put, ends⟩)
    · refine ⟨place, ?_, fun later above => left.gone later (by omega), left.free⟩
      rw [weaveAt, left.kept, byteAt_natCast, stands]
      simp
    · -- The place of the text may be outside of the buffer, where nothing has to be removed.
      have silent : (if removed position then [] else byteAt buffer position) = [] := by
        split
        · rfl
        next kept =>
          by_cases negative : position < 0
          · exact byteAt_of_neg negative
          · obtain ⟨found, rfl⟩ : ∃ found : Nat, position = found :=
              ⟨position.toNat, by omega⟩
            apply byteAt_of_length_le
            by_contra inside
            exact kept (put.gone found (Int.le_refl _) (by omega))
      refine ⟨position, ?_, ?_, ?_⟩
      · rw [weaveAt, silent, List.append_nil, getLast?_textsAt filled]
        exact ⟨front, text, rest, rfl, fun block member => Int.ne_of_lt (put.later block member),
          ends⟩
      · exact fun later above inside => put.gone later (Int.le_of_lt above) inside
      · intro block member
        rcases List.mem_append.mp member with ahead | here
        · exact put.earlier block ahead
        · rcases List.mem_cons.mp here with rfl | behind
          · exact Int.le_refl _
          · exact Int.le_of_lt (put.later block behind)

end SchemaDoc.Editing
