import SchemaDoc.Proofs.Editing.Widening
import SchemaDoc.Proofs.Text.Boundary

/-!
# Edits that break no character

A region whose ends lie between characters is widened and joined to others over bytes of ASCII
only, so the ends of what comes of it lie between characters again. A batch of edits whose places
all lie so cuts a text into texts: what is kept between two of them writes a text, and so does the
whole that is put together.
-/
namespace SchemaDoc.Editing

open Text (Bytes IsBoundary encode isBlankByte)

variable {text : List Char} {test : UInt8 → Bool}

/-- Both ends of a region lie between characters. -/
def Region.OnBoundaries (text : List Char) (region : Region) : Prop :=
  ∃ start stop : Nat, region = .between start stop ∧ IsBoundary text start ∧ IsBoundary text stop

/-- An edit breaks no character: it inserts a text between two, or deletes a region whose ends lie
so. -/
def Edit.OnBoundaries (text : List Char) : Edit → Prop
  | .insertion position content =>
    (∃ place : Nat, position = place ∧ IsBoundary text place) ∧
      ∃ inserted, content = encode inserted
  | .deletion position length => Region.OnBoundaries text { start := position, length := length }

/-! ### Stretches of ASCII -/

/-- A test that only bytes of ASCII pass. -/
def IsAscii (test : UInt8 → Bool) : Prop :=
  ∀ byte, test byte = true → byte < 0x80

theorem isAscii_isListSyntax : IsAscii isListSyntax := by
  intro byte passes
  simp only [isListSyntax, isSeparator, isBlankByte, Bool.or_eq_true, Bool.and_eq_true,
    decide_eq_true_eq, beq_iff_eq] at passes
  rcases passes with (((⟨_, high⟩ | rfl) | rfl) | rfl) | rfl
  · exact UInt8.lt_of_le_of_lt high (by decide)
  all_goals decide

theorem isAscii_isBlankByte : IsAscii isBlankByte := fun byte blank =>
  isAscii_isListSyntax byte (isListSyntax_of_isSeparator byte (isSeparator_of_isBlankByte byte blank))

theorem Holds.boundaries (ascii : IsAscii test) {place : Nat}
    (holds : Holds test (encode text) place) :
    IsBoundary text place ∧ IsBoundary text (place + 1) := by
  obtain ⟨byte, found, passes⟩ := holds_natCast.mp holds
  exact Text.isBoundary_of_ascii found (ascii byte passes)

/-- A stretch of ASCII starts at a boundary if it ends at one. -/
theorem AllBetween.boundary_front (ascii : IsAscii test) {start stop : Nat}
    (all : AllBetween test (encode text) start stop) (order : start ≤ stop)
    (boundary : IsBoundary text stop) : IsBoundary text start := by
  rcases Nat.eq_or_lt_of_le order with rfl | more
  · exact boundary
  · exact ((all.holds boundary.le (Int.le_refl _) (by omega)).boundaries ascii).1

/-- A stretch of ASCII ends at a boundary if it starts at one. -/
theorem AllBetween.boundary_back (ascii : IsAscii test) {start stop : Nat}
    (all : AllBetween test (encode text) start stop) (inside : stop ≤ (encode text).length)
    (order : start ≤ stop) (boundary : IsBoundary text start) : IsBoundary text stop := by
  cases stop with
  | zero => exact Text.isBoundary_zero text
  | succ last =>
    rcases Nat.eq_or_lt_of_le order with rfl | more
    · exact boundary
    · have ends : Holds test (encode text) last := all.holds inside (by omega) (by omega)
      exact (ends.boundaries ascii).2

/-! ### Widening and joining -/

theorem Grows.onBoundaries (ascii : IsAscii test) {start stop first last : Nat}
    (grows : Grows test (encode text) start stop first last) (low : IsBoundary text start)
    (high : IsBoundary text stop) : (Region.between first last).OnBoundaries text :=
  ⟨first, last, rfl, grows.front.boundary_front ascii grows.before low,
    grows.back.boundary_back ascii grows.inside grows.after high⟩

theorem Region.OnBoundaries.widenStatement {region : Region} (fits : region.OnBoundaries text) :
    (widenStatement (encode text) region).OnBoundaries text := by
  obtain ⟨start, stop, rfl, low, high⟩ := fits
  obtain ⟨first, last, same, grows⟩ := widenStatement_grows low.le high.le
  rw [same]
  exact grows.onBoundaries isAscii_isBlankByte low high

theorem Region.OnBoundaries.widenEntry {region : Region} (fits : region.OnBoundaries text) :
    (widenEntry (encode text) region).OnBoundaries text := by
  obtain ⟨start, stop, rfl, low, high⟩ := fits
  obtain ⟨first, last, same, grows⟩ := widenEntry_grows low.le high.le
  rw [same]
  exact grows.onBoundaries isAscii_isListSyntax low high

theorem mergeFrom_onBoundaries (buffer : Bytes) (current : Region) (rest : List Region)
    (fits : ∀ region ∈ current :: rest, region.OnBoundaries text) :
    ∀ region ∈ mergeFrom buffer current rest, region.OnBoundaries text := by
  -- The open region grows from step to step, so the induction is for every one of them.
  induction rest generalizing current with
  | nil => exact fits
  | cons next rest ih =>
    have later : ∀ region ∈ next :: rest, region.OnBoundaries text :=
      fun region member => fits region (List.mem_cons_of_mem current member)
    rw [mergeFrom]
    split
    · apply ih
      intro region member
      rcases List.mem_cons.mp member with rfl | member
      · obtain ⟨start, stop, rfl, low, high⟩ := fits current (by simp)
        obtain ⟨start', stop', rfl, low', high'⟩ := fits next (by simp)
        exact ⟨start, max stop stop', Region.join_between start stop start' stop', low,
          high.max high'⟩
      · exact later region (List.mem_cons_of_mem next member)
    · intro region member
      rcases List.mem_cons.mp member with rfl | member
      · exact fits region (by simp)
      · exact ih next later region member

theorem mergeAdjacent_onBoundaries (buffer : Bytes) {regions : List Region}
    (fits : ∀ region ∈ regions, region.OnBoundaries text) :
    ∀ region ∈ mergeAdjacent buffer regions, region.OnBoundaries text := by
  rw [mergeAdjacent]
  split
  · simp
  next first rest parts =>
    apply mergeFrom_onBoundaries
    intro region member
    rw [← parts] at member
    exact fits region (List.mem_mergeSort.mp member)

/-! ### Splicing -/

/-- Edits that break no character leave a text, wherever between characters the walk stands. -/
theorem spliceFrom_isText {edits : List Edit} (fits : ∀ edit ∈ edits, edit.OnBoundaries text)
    {done : Nat} (settled : IsBoundary text done) :
    ∃ spliced, spliceFrom (encode text) done edits = encode spliced := by
  -- What the walk has passed may lie behind the next edit, so it goes on from the farther place.
  induction edits generalizing done with
  | nil => exact settled.behind
  | cons edit rest ih =>
    have later : ∀ edit ∈ rest, edit.OnBoundaries text :=
      fun other member => fits other (List.mem_cons_of_mem edit member)
    have fit := fits edit (by simp)
    cases edit with
    | insertion position content =>
      obtain ⟨⟨place, rfl, boundary⟩, inserted, rfl⟩ := fit
      obtain ⟨kept, before⟩ := settled.between boundary
      obtain ⟨spliced, behind⟩ := ih later (settled.max boundary)
      rw [spliceFrom]
      simp only [Edit.position, Int.toNat_natCast, before, behind]
      exact ⟨kept ++ (inserted ++ spliced), by rw [Text.encode_append, Text.encode_append]⟩
    | deletion position length =>
      obtain ⟨start, stop, same, low, high⟩ := fit
      cases same
      obtain ⟨kept, before⟩ := settled.between low
      have ends : (start : Int) + ((stop : Int) - start) = stop := by omega
      obtain ⟨spliced, behind⟩ := ih later ((settled.max low).max high)
      rw [spliceFrom]
      simp only [Edit.position, Int.toNat_natCast, ends, before, behind]
      exact ⟨kept ++ spliced, (Text.encode_append _ _).symm⟩

theorem splice_isText {edits : List Edit} (fits : ∀ edit ∈ edits, edit.OnBoundaries text) :
    ∃ spliced, splice (encode text) edits = encode spliced :=
  spliceFrom_isText (fun edit member => fits edit (List.mem_mergeSort.mp member))
    (Text.isBoundary_zero text)

end SchemaDoc.Editing
