import Mathlib
import SchemaDoc.Description.Restoration
import SchemaDoc.Proofs.Description.Index
import SchemaDoc.Proofs.Editing.Widening
import SchemaDoc.Proofs.Text.Utf8

/-!
# What restoring does to a source

The restored source is the old one with some places removed and some blocks inserted. The blocks
are those of the described entities: one for each path of the source information that leads to
one, and one for the file. What is removed is the text of the paired annotations, and around it
only blanks, commas and brackets.

The entities are told from the descriptor alone by `Restores`, which knows nothing of the order in
which the plan finds them.
-/
namespace SchemaDoc.Description

open Descriptor (EncodeError EntityKind Location Message Path Span locations
  resolveDeclaration)
open Editing
open Text (Bytes encode isBlankByte trimEnd)

/-- The locations of a file, grouped by path. -/
abbrev indexOf (file : Message) : LocationIndex :=
  LocationIndex.ofLocations (locations file)

/-- An entity that descriptions are put back to, as the descriptor of a file tells it: at the path
of a declaration, or at no path for the file itself. -/
inductive Restores (buffer : Bytes) (file : Message) (ids : Ids) :
    Option Path → Described → Prop where
  | declaration {path : Path} {kind : EntityKind} {descriptor : Message} {number : OptionNumber}
      {location : Location} {span : Span}
      (resolves : resolveDeclaration file path = some (kind, descriptor))
      (numbered : ids.forKind kind = some number)
      (described : readOwned kind descriptor number.value ≠ [])
      (first : (locations file).find? (·.path == path) = some location)
      (spans : location.span? = some span) :
      Restores buffer file ids (some path)
        { optionPath := path ++ [(kind.optionsTag : Int), (number.value : Int)]
          descriptions := readOwned kind descriptor number.value
          annotations := (indexOf file).annotations
            (path ++ [(kind.optionsTag : Int), (number.value : Int)])
          position := spanStart buffer span
          bracketed := kind.isBracketed }
  | file {number : OptionNumber} (numbered : ids.forKind .file = some number)
      (described : readOwned .file file number.value ≠ []) :
      Restores buffer file ids none
        { optionPath := [(EntityKind.file.optionsTag : Int), (number.value : Int)]
          descriptions := readOwned .file file number.value
          annotations := (indexOf file).annotations
            [(EntityKind.file.optionsTag : Int), (number.value : Int)]
          position := fileCommentPosition buffer (indexOf file)
          bracketed := false }

/-- A place in the text of one of the annotations that are paired with a description. -/
def Described.Annotates (buffer : Bytes) (entity : Described) (place : Int) : Prop :=
  ∃ location ∈ entity.paired, ∃ span, location.span? = some span ∧
    (spanRegion buffer span).Covers place

/-- The block of comments of an entity and the place that it goes to. -/
def Described.block (buffer : Bytes) (entity : Described) : Int × Bytes :=
  (entity.position, commentBlock buffer entity.position entity.descriptions)

/-- `text` is `source` with the described entities of a file put back into it. They are listed
with their keys in the order in which they are put back. -/
structure Rewrites (source : List Char) (file : Message) (ids : Ids) (removed : Int → Bool)
    (owners : List (Option Path × Described)) (text : List Char) : Prop where
  /-- No entity is put back twice. -/
  distinct : (owners.map (·.1)).Nodup
  /-- They are put back in the order in which their paths first occur, and the file comes last. -/
  ordered : (owners.map (·.1)).Sublist ((distinctPaths (locations file)).map some ++ [none])
  /-- Exactly the described entities are put back. -/
  exact : ∀ key entity, (key, entity) ∈ owners ↔ Restores (encode source) file ids key entity
  /-- The text of every paired annotation goes. -/
  takes : ∀ owner ∈ owners, ∀ place, owner.2.Annotates (encode source) place →
    removed place = true
  /-- Nothing else goes but blanks, commas and brackets. -/
  spares : ∀ place, removed place = true →
    (∃ owner ∈ owners, owner.2.Annotates (encode source) place) ∨
      Holds isListSyntax (encode source) place
  /-- The rest of the source stays where it was, around the inserted blocks. -/
  woven : Sweeps
    (weaveAt (encode source) removed (owners.map (·.2.block (encode source)))) (encode text)

/-! ### The entities of a plan -/

/-- The declaration that is put back to at a path, if there is one. -/
def declarationAt? (buffer : Bytes) (file : Message) (ids : Ids) (path : Path) :
    Option Described :=
  ((locations file).find? (·.path == path)).bind fun location =>
    (findAt? buffer file ids (indexOf file) path location).bind Finding.entity?

/-- The entities that are put back to, each with its key. -/
def ownersOf (buffer : Bytes) (file : Message) (ids : Ids) : List (Option Path × Described) :=
  ((distinctPaths (locations file)).filterMap fun path =>
    (declarationAt? buffer file ids path).map fun entity => (some path, entity)) ++
  ((describedFile? buffer file ids (indexOf file)).map fun entity => (none, entity)).toList

theorem entities_plan (buffer : Bytes) (file : Message) (ids : Ids) :
    (Restoration.plan buffer file ids).entities = (ownersOf buffer file ids).map (·.2) := by
  have found : (Restoration.plan buffer file ids).declarations =
      (distinctPaths (locations file)).filterMap (declarationAt? buffer file ids) := by
    simp only [Restoration.declarations, Restoration.plan, findAll, findAmong]
    rw [List.filterMap_filterMap, ofLocations_eq, List.filterMap_map, ← ofLocations_eq]
    apply List.filterMap_congr
    intro path _
    -- The index holds a group for each path, and the first of a group is what is found first.
    simp only [Function.comp_apply, declarationAt?, ← List.head?_filter]
    cases (locations file).filter (·.path == path) <;> rfl
  rw [Restoration.entities, found, ownersOf, List.map_append, List.map_filterMap]
  congr 1
  · apply List.filterMap_congr
    intro path _
    cases declarationAt? buffer file ids path <;> rfl
  · simp only [Restoration.plan]
    cases describedFile? buffer file ids (indexOf file) <;> rfl

theorem declarationAt?_eq_some {buffer : Bytes} {file : Message} {ids : Ids} {path : Path}
    {entity : Described} :
    declarationAt? buffer file ids path = some entity ↔
      Restores buffer file ids (some path) entity := by
  constructor
  · intro found
    simp only [declarationAt?, Option.bind_eq_some_iff] at found
    obtain ⟨location, first, finding, found, known⟩ := found
    simp only [findAt?] at found
    split at found
    · cases found
    next kind descriptor resolves =>
      split at found
      · cases found
      next number numbered =>
        split at found
        · cases found
        next described =>
          split at found <;> cases found <;> cases known
          next span spans =>
            exact .declaration resolves numbered (by simpa using described) first spans
  · intro restores
    cases restores with
    | declaration resolves numbered described first spans =>
      simp [declarationAt?, findAt?, first, resolves, numbered, described, spans,
        Finding.entity?]

theorem describedFile?_eq_some {buffer : Bytes} {file : Message} {ids : Ids}
    {entity : Described} :
    describedFile? buffer file ids (indexOf file) = some entity ↔
      Restores buffer file ids none entity := by
  constructor
  · intro found
    simp only [describedFile?] at found
    split at found
    · cases found
    next number numbered =>
      split at found
      · cases found
      next described =>
        cases found
        exact .file numbered (by simpa using described)
  · intro restores
    cases restores with
    | file numbered described => simp [describedFile?, numbered, described]

/-- A path that something is put back to is the path of a location. -/
theorem Restores.path_mem {buffer : Bytes} {file : Message} {ids : Ids} {path : Path}
    {entity : Described} (restores : Restores buffer file ids (some path) entity) :
    path ∈ distinctPaths (locations file) := by
  cases restores with
  | declaration _ _ _ first _ =>
    exact mem_distinctPaths.mpr
      ⟨_, List.mem_of_find?_eq_some first, by simpa using List.find?_some first⟩

theorem mem_ownersOf {buffer : Bytes} {file : Message} {ids : Ids} {key : Option Path}
    {entity : Described} :
    (key, entity) ∈ ownersOf buffer file ids ↔ Restores buffer file ids key entity := by
  simp only [ownersOf, List.mem_append, List.mem_filterMap, Option.mem_toList,
    Option.map_eq_some_iff, Prod.mk.injEq]
  cases key with
  | none => simp [describedFile?_eq_some]
  | some path =>
    simp only [declarationAt?_eq_some, Option.some.injEq, reduceCtorEq, false_and, and_false,
      exists_false, or_false]
    constructor
    · rintro ⟨_, _, _, restores, rfl, rfl⟩
      exact restores
    · exact fun restores => ⟨path, restores.path_mem, entity, restores, rfl, rfl⟩

theorem ownersOf_ordered (buffer : Bytes) (file : Message) (ids : Ids) :
    ((ownersOf buffer file ids).map (·.1)).Sublist
      ((distinctPaths (locations file)).map some ++ [none]) := by
  rw [ownersOf, List.map_append]
  apply List.Sublist.append
  · rw [List.map_filterMap]
    induction distinctPaths (locations file) with
    | nil => exact .slnil
    | cons path rest ih =>
      cases found : declarationAt? buffer file ids path with
      | none => simpa [found] using ih.cons (some path)
      | some entity => simpa [found] using ih
  · cases describedFile? buffer file ids (indexOf file) <;> simp

theorem ownersOf_distinct (buffer : Bytes) (file : Message) (ids : Ids) :
    ((ownersOf buffer file ids).map (·.1)).Nodup := by
  apply (ownersOf_ordered buffer file ids).nodup
  have paths : ((distinctPaths (locations file)).map some).Nodup :=
    (nodup_distinctPaths (locations file)).map fun _ _ same => Option.some.inj same
  exact paths.append (List.nodup_singleton none) (by simp)

/-- Every entity is put back inside the source. -/
theorem Restores.position_le {buffer : Bytes} {file : Message} {ids : Ids} {key : Option Path}
    {entity : Described} (restores : Restores buffer file ids key entity) :
    entity.position ≤ buffer.length := by
  cases restores with
  | declaration => exact displayPosition_le _ _ _ _
  | file =>
    simp only [fileCommentPosition]
    split
    · exact displayPosition_le _ _ _ _
    · exact Nat.zero_le _

/-! ### What the edits of an entity remove -/

theorem spanRegion_within (buffer : Bytes) (span : Span) : (spanRegion buffer span).Within buffer :=
  ⟨_, _, rfl, displayPosition_le _ _ _ _, displayPosition_le _ _ _ _⟩

/-- What is deleted with the paired annotations is their text, and on top of it only blanks,
commas and brackets. -/
theorem deletedRegions_gathers (buffer : Bytes) (entity : Described) :
    Gathers isListSyntax buffer
      ((entity.paired.filterMap Location.span?).map (spanRegion buffer))
      (deletedRegions buffer entity) := by
  have within : ∀ region ∈ (entity.paired.filterMap Location.span?).map (spanRegion buffer),
      region.Within buffer := by
    intro region member
    obtain ⟨span, _, rfl⟩ := List.mem_map.mp member
    exact spanRegion_within buffer span
  simp only [deletedRegions]
  split
  · have merged := (mergeAdjacent_gathers _ within).mono isListSyntax_of_isSeparator
    exact merged.map fun region => widenEntry_widens
  · have kept : Gathers isBlankByte buffer _ _ := .refl within
    have widened := kept.map fun region => widenStatement_widens
    exact widened.mono fun byte blank =>
      isListSyntax_of_isSeparator byte (isSeparator_of_isBlankByte byte blank)

theorem annotates_iff {buffer : Bytes} {entity : Described} {place : Int} :
    entity.Annotates buffer place ↔
      ∃ region ∈ (entity.paired.filterMap Location.span?).map (spanRegion buffer),
        region.Covers place := by
  constructor
  · rintro ⟨location, member, span, spans, covered⟩
    exact ⟨_, List.mem_map_of_mem (List.mem_filterMap.mpr ⟨location, member, spans⟩), covered⟩
  · rintro ⟨region, member, covered⟩
    obtain ⟨span, inside, rfl⟩ := List.mem_map.mp member
    obtain ⟨location, paired, spans⟩ := List.mem_filterMap.mp inside
    exact ⟨location, paired, span, spans, covered⟩

theorem linePrefix_eq {buffer : Bytes} {position : Nat} (inside : position ≤ buffer.length) :
    linePrefix buffer position = (buffer.take position).drop (lineStart buffer position) :=
  slice_natCast (Nat.le_trans (lineStart_le inside) inside) inside

theorem length_linePrefix {buffer : Bytes} {position : Nat} (inside : position ≤ buffer.length) :
    (linePrefix buffer position).length = position - lineStart buffer position := by
  rw [linePrefix_eq inside, List.length_drop, List.length_take, Nat.min_eq_left inside]

/-- What goes before a declaration that moves off its line is a stretch of blanks up to it. -/
theorem blanksBefore_stretch {buffer : Bytes} {position : Nat} (inside : position ≤ buffer.length) :
    ∃ kept ≤ position, AllBetween isBlankByte buffer kept position ∧
      ∀ edit ∈ blanksBefore buffer position, edit = .deletion kept (position - kept) := by
  obtain ⟨tail, parts, blank⟩ := Text.trimEnd_append_blanks isBlankByte (linePrefix buffer position)
  simp only [blanksBefore]
  generalize trimEnd isBlankByte (linePrefix buffer position) = kept at *
  have size := congrArg List.length parts
  rw [List.length_append] at size
  have low := lineStart_le inside
  have short := length_linePrefix inside
  refine ⟨position - tail.length, Nat.sub_le _ _, ?_, ?_⟩
  · intro byte member
    apply blank
    rw [linePrefix_eq inside] at parts
    have split := (List.take_append_drop (lineStart buffer position) (buffer.take position)).symm
    rw [parts, ← List.append_assoc] at split
    rw [split] at member
    have front : position - tail.length = ((buffer.take position).take
        (lineStart buffer position) ++ kept).length := by
      rw [List.length_append, List.length_take, List.length_take]
      omega
    rw [front, List.drop_left] at member
    exact member
  · intro edit member
    split at member
    · cases member
    · rw [List.mem_singleton.mp member]
      congr 1 <;> omega

/-- The bytes that go before a declaration that moves off its line are blanks. -/
theorem holds_of_blanksBefore {buffer : Bytes} {position : Nat} (inside : position ≤ buffer.length)
    {place : Int} (removed : deleted (blanksBefore buffer position) place = true) :
    Holds isBlankByte buffer place := by
  obtain ⟨kept, _, stretch, only⟩ := blanksBefore_stretch inside
  obtain ⟨edit, member, gone⟩ := List.any_eq_true.mp removed
  rw [only edit member] at gone
  simp only [Edit.deletes, Bool.and_eq_true, decide_eq_true_eq] at gone
  exact stretch.holds inside gone.1 (by omega)

theorem deleted_append (first second : List Edit) (place : Int) :
    deleted (first ++ second) place = (deleted first place || deleted second place) :=
  List.any_append

theorem deleted_regions {regions : List Region} {place : Int} :
    deleted (regions.map fun region => .deletion region.start region.length) place = true ↔
      ∃ region ∈ regions, region.Covers place := by
  simp [deleted, Edit.deletes, Region.Covers, Region.stop]

theorem deleted_edits {buffer : Bytes} {entity : Described} {place : Int} :
    deleted (entity.edits buffer) place = true ↔
      (∃ region ∈ deletedRegions buffer entity, region.Covers place) ∨
        deleted (blanksBefore buffer entity.position) place = true := by
  rw [Described.edits, deleted_append, deleted_append, deleted_insertion, Bool.or_eq_true,
    Bool.or_eq_true, deleted_regions]
  simp [deleted]

theorem insertions_append (first second : List Edit) :
    insertions (first ++ second) = insertions first ++ insertions second :=
  List.filterMap_append

theorem insertions_edits (buffer : Bytes) (entity : Described) :
    insertions (entity.edits buffer) = [entity.block buffer] := by
  have regions : ∀ regions : List Region,
      insertions (regions.map fun region => .deletion region.start region.length) = [] := by
    intro regions
    induction regions with
    | nil => rfl
    | cons region rest ih => rw [List.map_cons, insertions_deletion, ih]
  have blanks : insertions (blanksBefore buffer entity.position) = [] := by
    simp only [blanksBefore]
    split <;> rfl
  rw [Described.edits, insertions_append, insertions_append, regions, blanks]
  rfl

/-! ### The whole plan -/

theorem plan_edits (buffer : Bytes) (file : Message) (ids : Ids) :
    (Restoration.plan buffer file ids).edits buffer =
      (ownersOf buffer file ids).flatMap fun owner => owner.2.edits buffer := by
  rw [Restoration.edits, entities_plan, List.flatMap_map]

theorem deleted_plan {buffer : Bytes} {file : Message} {ids : Ids} {place : Int} :
    deleted ((Restoration.plan buffer file ids).edits buffer) place = true ↔
      ∃ owner ∈ ownersOf buffer file ids, deleted (owner.2.edits buffer) place = true := by
  rw [plan_edits, deleted, List.any_flatMap, List.any_eq_true]
  rfl

theorem insertions_plan (buffer : Bytes) (file : Message) (ids : Ids) :
    insertions ((Restoration.plan buffer file ids).edits buffer) =
      (ownersOf buffer file ids).map (·.2.block buffer) := by
  rw [plan_edits, insertions, List.filterMap_flatMap, List.map_eq_flatMap]
  congr 1
  funext owner
  exact insertions_edits _ _

/-- Nothing is restored from options that cannot be read. -/
theorem restore_of_unreadable {file : Message} {ids : Ids} {error : EncodeError}
    (unreadable : firstUnreadable? file ids (indexOf file) = some error) (source : List Char) :
    (restore source file ids).result = .error (.unwritable error) := by
  simp only [restore, unreadable]

/-- If all options can be read, the plan is carried out. -/
theorem restore_of_readable {file : Message} {ids : Ids}
    (readable : firstUnreadable? file ids (indexOf file) = none) (source : List Char) :
    (restore source file ids).log =
        (Restoration.plan (encode source) file ids).log (String.ofList (Text.display (file.text 1)))
      ∧ (restore source file ids).result =
        (Text.decode (splice (encode source)
            ((Restoration.plan (encode source) file ids).edits (encode source)))).elim
          (.error (.notText (splice (encode source)
            ((Restoration.plan (encode source) file ids).edits (encode source))))) .ok := by
  refine ⟨by simp only [restore, readable], ?_⟩
  simp only [restore, readable]
  split <;> simp only [*, Option.elim]

theorem restore_result_ok_iff {source text : List Char} {file : Message} {ids : Ids} :
    (restore source file ids).result = .ok text ↔
      firstUnreadable? file ids (indexOf file) = none ∧
        Text.decode (splice (encode source)
          ((Restoration.plan (encode source) file ids).edits (encode source))) = some text := by
  cases found : firstUnreadable? file ids (indexOf file) with
  | some error => simp [restore_of_unreadable found]
  | none =>
    rw [(restore_of_readable found source).2]
    cases Text.decode (splice (encode source)
      ((Restoration.plan (encode source) file ids).edits (encode source))) <;> simp

/-- What restoring returns is the text of the spliced source. -/
theorem encode_of_restore {source text : List Char} {file : Message} {ids : Ids}
    (returned : (restore source file ids).result = .ok text) :
    encode text = splice (encode source)
      ((Restoration.plan (encode source) file ids).edits (encode source)) :=
  Text.encode_of_decode (restore_result_ok_iff.mp returned).2

/-- An entity deletes the text of its paired annotations, and beyond it list syntax only. -/
theorem Restores.deletes {buffer : Bytes} {file : Message} {ids : Ids} {key : Option Path}
    {entity : Described} (restores : Restores buffer file ids key entity) {place : Int}
    (gone : deleted (entity.edits buffer) place = true) :
    entity.Annotates buffer place ∨ Holds isListSyntax buffer place := by
  rcases deleted_edits.mp gone with ⟨wide, inside, covered⟩ | blank
  · rcases (deletedRegions_gathers _ entity).spares wide inside place covered with own | passes
    · exact Or.inl (annotates_iff.mpr own)
    · exact Or.inr passes
  · -- The blanks that trail behind what stood before the entity on its line.
    refine Or.inr ((holds_of_blanksBefore restores.position_le blank).mono fun byte blank => ?_)
    exact isListSyntax_of_isSeparator byte (isSeparator_of_isBlankByte byte blank)

theorem plan_rewrites {source text : List Char} {file : Message} {ids : Ids}
    (returned : (restore source file ids).result = .ok text) :
    Rewrites source file ids
      (deleted ((Restoration.plan (encode source) file ids).edits (encode source)))
      (ownersOf (encode source) file ids) text := by
  refine ⟨ownersOf_distinct _ _ _, ownersOf_ordered _ _ _, fun key entity => mem_ownersOf, ?_, ?_,
    ?_⟩
  · intro owner member place annotates
    obtain ⟨region, inside, covered⟩ := annotates_iff.mp annotates
    have kept := (deletedRegions_gathers _ owner.2).keeps region inside place covered
    exact deleted_plan.mpr ⟨owner, member, deleted_edits.mpr (Or.inl kept)⟩
  · intro place gone
    obtain ⟨owner, member, gone⟩ := deleted_plan.mp gone
    rcases (mem_ownersOf.mp member).deletes gone with annotates | passes
    · exact Or.inl ⟨owner, member, annotates⟩
    · exact Or.inr passes
  · have read := splice_sweeps (encode source)
      ((Restoration.plan (encode source) file ids).edits (encode source))
    rw [emittedAt, insertions_plan, ← encode_of_restore returned] at read
    exact read

/-- Whenever restoring returns, the text is the source with nothing removed but the paired
annotations and blanks, commas and brackets, and with nothing inserted but one block for each
described entity. -/
theorem restore_rewrites {source text : List Char} {file : Message} {ids : Ids}
    (returned : (restore source file ids).result = .ok text) :
    ∃ removed owners, Rewrites source file ids removed owners text :=
  ⟨_, _, plan_rewrites returned⟩

/-- A source with one option entry in brackets. -/
def bracketedSource : List Char :=
  "enum E \x7b\n  A = 0 [(d) = \"x\"];\n\x7d\n".toList

/-- What `bracketedSource` compiles to: the entry is stored in the options of the enum value. -/
def bracketedFile : Message :=
  [.message 5
    [.message 2 [.message 3 [.unknown (Wire.delimitedRecord standardNumber.value [0x78])]]],
   .message 9
    [.message 1 [.packed 1 [5, 0, 2, 0], .packed 2 [1, 2, 18]],
     .message 1 [.packed 1 [5, 0, 2, 0, 3, 1000], .packed 2 [1, 9, 18]]]]

/-- The only entry of a list goes with its brackets, and its text comes back as a comment. -/
theorem restore_rewrites_bracketed :
    (restore bracketedSource bracketedFile (.uniform standardNumber)).result =
      .ok "enum E \x7b\n  // x\n  A = 0;\n\x7d\n".toList ∧
    ∃ removed owners, Rewrites bracketedSource bracketedFile (.uniform standardNumber) removed
      owners "enum E \x7b\n  // x\n  A = 0;\n\x7d\n".toList := by
  have returned : (restore bracketedSource bracketedFile (.uniform standardNumber)).result =
      .ok "enum E \x7b\n  // x\n  A = 0;\n\x7d\n".toList := by
    cbv
  exact ⟨returned, restore_rewrites returned⟩

end SchemaDoc.Description
