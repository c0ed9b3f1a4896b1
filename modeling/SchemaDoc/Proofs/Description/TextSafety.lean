import SchemaDoc.Proofs.Description.Restoration
import SchemaDoc.Proofs.Editing.Boundary

/-!
# Restoring breaks no character

All edits are worked out on bytes, in a source that may hold any characters. If the spans that
restoring uses start and end between characters, then so does everything that is made of them, and
what comes out is a text.
-/
namespace SchemaDoc.Description

open Descriptor (Location Message Path Span)
open Editing
open Text (IsBoundary encode)

variable {source : List Char} {file : Message} {ids : Ids}

/-- The spans that restoring uses start and end between characters of the source. -/
structure SpansFit (source : List Char) (file : Message) (ids : Ids) : Prop where
  /-- Where a declaration starts, or the statement that the comment about the file goes to. -/
  starts : ∀ key entity, Restores (encode source) file ids key entity →
    IsBoundary source entity.position
  /-- Where an annotation that is paired with a description starts and ends. -/
  annotations : ∀ key entity, Restores (encode source) file ids key entity →
    ∀ location ∈ entity.paired, ∀ span, location.span? = some span →
      IsBoundary source (spanStart (encode source) span) ∧
      IsBoundary source
        (displayPosition (encode source) span.endLine span.endColumn defaultTabWidth)

/-! ### The edits of one entity -/

theorem SpansFit.deletedRegions (fit : SpansFit source file ids) {key : Option Path}
    {entity : Described} (restores : Restores (encode source) file ids key entity) :
    ∀ region ∈ deletedRegions (encode source) entity, region.OnBoundaries source := by
  have spans : ∀ region ∈ (entity.paired.filterMap Location.span?).map
      (spanRegion (encode source)), region.OnBoundaries source := by
    intro region member
    obtain ⟨span, listed, rfl⟩ := List.mem_map.mp member
    obtain ⟨location, paired, found⟩ := List.mem_filterMap.mp listed
    obtain ⟨low, high⟩ := fit.annotations key entity restores location paired span found
    exact ⟨_, _, rfl, low, high⟩
  intro region member
  simp only [Description.deletedRegions] at member
  -- Entries of a list are joined before they are widened, statements are widened one by one.
  split at member
  · obtain ⟨merged, joined, rfl⟩ := List.mem_map.mp member
    exact (mergeAdjacent_onBoundaries _ spans merged joined).widenEntry
  · obtain ⟨plain, listed, rfl⟩ := List.mem_map.mp member
    exact (spans plain listed).widenStatement

theorem blanksBefore_onBoundaries {position : Nat} (boundary : IsBoundary source position) :
    ∀ edit ∈ blanksBefore (encode source) position, edit.OnBoundaries source := by
  obtain ⟨kept, before, stretch, only⟩ := blanksBefore_stretch boundary.le
  intro edit member
  rw [only edit member]
  exact ⟨kept, position, rfl, stretch.boundary_front isAscii_isBlankByte before boundary, boundary⟩

theorem SpansFit.edits (fit : SpansFit source file ids) {key : Option Path} {entity : Described}
    (restores : Restores (encode source) file ids key entity) :
    ∀ edit ∈ entity.edits (encode source), edit.OnBoundaries source := by
  have boundary := fit.starts key entity restores
  intro edit member
  simp only [Described.edits, List.mem_append, List.mem_map, List.mem_singleton] at member
  rcases member with (⟨region, listed, rfl⟩ | blank) | rfl
  · exact fit.deletedRegions restores region listed
  · exact blanksBefore_onBoundaries boundary edit blank
  · exact ⟨⟨entity.position, rfl, boundary⟩, _, rfl⟩

/-! ### The whole plan -/

/-- If the spans that are used break no character, then no edit does, and what is spliced is the
text that restoring gives, unless there are options that cannot be read. -/
theorem restore_isText (fit : SpansFit source file ids) :
    (∀ edit ∈ (Restoration.plan (encode source) file ids).edits (encode source),
      edit.OnBoundaries source) ∧
    ∃ text, encode text = splice (encode source)
        ((Restoration.plan (encode source) file ids).edits (encode source)) ∧
      (restore source file ids).result =
        (firstUnreadable? file ids (indexOf file)).elim (.ok text)
          fun error => .error (.unwritable error) := by
  -- Every edit of the plan is one of an entity, and all spans of that entity fit.
  have fits : ∀ edit ∈ (Restoration.plan (encode source) file ids).edits (encode source),
      edit.OnBoundaries source := by
    intro edit member
    rw [plan_edits] at member
    obtain ⟨⟨key, entity⟩, listed, mine⟩ := List.mem_flatMap.mp member
    exact fit.edits (mem_ownersOf.mp listed) edit mine
  obtain ⟨text, spliced⟩ := splice_isText fits
  refine ⟨fits, text, spliced.symm, ?_⟩
  cases found : firstUnreadable? file ids (indexOf file) with
  | some error => exact restore_of_unreadable found source
  | none =>
    rw [(restore_of_readable found source).2, spliced, Text.decode_encode]
    rfl

/-- A source with longer characters before, in and behind an option entry. -/
def accentedSource : List Char :=
  "enum E \x7b\n  /*é*/ A = 0 [(d) = \"ü\"]; // ö\n\x7d\n".toList

/-- What `accentedSource` compiles to. -/
def accentedFile : Message :=
  [.message 5
    [.message 2 [.message 3 [.unknown (Wire.delimitedRecord standardNumber.value [0xC3, 0xBC])]]],
   .message 9
    [.message 1 [.packed 1 [5, 0, 2, 0], .packed 2 [1, 9, 28]],
     .message 1 [.packed 1 [5, 0, 2, 0, 3, 1000], .packed 2 [1, 16, 26]]]]

theorem accented_fit : SpansFit accentedSource accentedFile (.uniform standardNumber) := by
  have used : (ownersOf (encode accentedSource) accentedFile (.uniform standardNumber)).map
      (fun owner => (owner.2.position, owner.2.paired.filterMap Location.span?)) =
      [(18, [⟨1, 16, 1, 26⟩])] := by
    cbv
  have only {key : Option Path} {entity : Described}
      (restores : Restores (encode accentedSource) accentedFile (.uniform standardNumber) key
        entity) :
      entity.position = 18 ∧ entity.paired.filterMap Location.span? = [⟨1, 16, 1, 26⟩] := by
    have listed := List.mem_map_of_mem (f := fun owner : Option Path × Described =>
      (owner.2.position, owner.2.paired.filterMap Location.span?)) (mem_ownersOf.mpr restores)
    rw [used, List.mem_singleton] at listed
    exact Prod.mk.inj listed
  constructor
  · intro key entity restores
    rw [(only restores).1]
    exact ⟨"enum E \x7b\n  /*é*/ ".toList, "A = 0 [(d) = \"ü\"]; // ö\n\x7d\n".toList,
      by cbv, by cbv⟩
  · intro key entity restores location paired span found
    have listed := List.mem_filterMap.mpr ⟨location, paired, found⟩
    rw [(only restores).2, List.mem_singleton] at listed
    subst listed
    have low : spanStart (encode accentedSource) ⟨1, 16, 1, 26⟩ = 25 := by cbv
    have high : displayPosition (encode accentedSource) 1 26 defaultTabWidth = 35 := by cbv
    rw [low, high]
    constructor
    · exact ⟨"enum E \x7b\n  /*é*/ A = 0 [".toList, "(d) = \"ü\"]; // ö\n\x7d\n".toList,
        by cbv, by cbv⟩
    · exact ⟨"enum E \x7b\n  /*é*/ A = 0 [(d) = \"ü\"".toList, "]; // ö\n\x7d\n".toList,
        by cbv, by cbv⟩

/-- The declaration moves to a line of its own, and all characters stay whole. -/
theorem restore_isText_accented :
    SpansFit accentedSource accentedFile (.uniform standardNumber) ∧
    (restore accentedSource accentedFile (.uniform standardNumber)).result =
      .ok "enum E \x7b\n  /*é*/\n  // ü\n  A = 0; // ö\n\x7d\n".toList ∧
    (∀ edit ∈ (Restoration.plan (encode accentedSource) accentedFile
        (.uniform standardNumber)).edits (encode accentedSource),
      edit.OnBoundaries accentedSource) ∧
    firstUnreadable? accentedFile (.uniform standardNumber) (indexOf accentedFile) = none ∧
    ∃ text, encode text = splice (encode accentedSource)
        ((Restoration.plan (encode accentedSource) accentedFile
          (.uniform standardNumber)).edits (encode accentedSource)) ∧
      (restore accentedSource accentedFile (.uniform standardNumber)).result =
        (firstUnreadable? accentedFile (.uniform standardNumber) (indexOf accentedFile)).elim
          (.ok text) fun error => .error (.unwritable error) := by
  have returned : (restore accentedSource accentedFile (.uniform standardNumber)).result =
      .ok "enum E \x7b\n  /*é*/\n  // ü\n  A = 0; // ö\n\x7d\n".toList := by
    cbv
  obtain ⟨fits, spliced⟩ := restore_isText accented_fit
  exact ⟨accented_fit, returned, fits, (restore_result_ok_iff.mp returned).1, spliced⟩

end SchemaDoc.Description
