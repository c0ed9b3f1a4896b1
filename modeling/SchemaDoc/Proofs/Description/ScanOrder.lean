import SchemaDoc.Proofs.Description.Restoration
import SchemaDoc.Proofs.Descriptor.Declarations

/-!
# The order in which locations are scanned

The source information of a file may list its locations in any order in which those of one path
keep theirs: restoring gives the same text. What is put back to a declaration is found by path, so
only the order of the declarations changes, and with it the order in which their edits are staged.
Applying edits forgets that order, except for insertions at one place, and there is one of those at
most if no two declarations start at one place. The comment about the file is always staged last.
-/
namespace SchemaDoc.Description

open Descriptor
open Editing
open Text (Bytes encode)

variable {buffer : Bytes} {file other : Message} {ids : Ids}

/-- Two files that are the same but for the order of their locations. -/
structure SameBesidesScan (file other : Message) : Prop where
  rest : file.clear 9 = other.clear 9
  scan : SameScan (locations file) (locations other)

/-- No two declarations that descriptions are put back to start at one place. -/
def StartApart (buffer : Bytes) (file : Message) (ids : Ids) : Prop :=
  ∀ path path' entity entity', Restores buffer file ids (some path) entity →
    Restores buffer file ids (some path') entity' → entity.position = entity'.position →
      path = path'

/-! ### What is found at a path -/

theorem SameBesidesScan.resolveDeclaration_eq (same : SameBesidesScan file other) (path : Path) :
    resolveDeclaration file path = resolveDeclaration other path := by
  rw [← resolveDeclaration_clear file, same.rest, resolveDeclaration_clear]

theorem SameBesidesScan.readOwned_eq (same : SameBesidesScan file other) (number : Nat) :
    readOwned .file file number = readOwned .file other number := by
  have apart : EntityKind.file.optionsTag ≠ 9 := by decide
  rw [readOwned, readOwned, ← Message.child?_clear_ne file apart, same.rest,
    Message.child?_clear_ne other apart]

theorem SameBesidesScan.declarationAt?_eq (same : SameBesidesScan file other) (path : Path) :
    declarationAt? buffer file ids path = declarationAt? buffer other ids path := by
  -- The first location of a path is the same, since those of one path keep their order.
  have first : (locations file).find? (·.path == path) =
      (locations other).find? (·.path == path) := by
    rw [← List.head?_filter, same.scan.stable, List.head?_filter]
  simp only [declarationAt?, findAt?, first, same.resolveDeclaration_eq, indexOf,
    same.scan.annotations_eq]

theorem SameBesidesScan.describedFile?_eq (same : SameBesidesScan file other) :
    describedFile? buffer file ids (indexOf file) =
      describedFile? buffer other ids (indexOf other) := by
  simp only [describedFile?, fileCommentPosition, same.readOwned_eq, indexOf,
    same.scan.annotations_eq, at?_ofLocations, same.scan.stable]

/-! ### What cannot be read -/

/-- Declarations of the two files are read alike, and so are the files themselves. -/
theorem SameBesidesScan.unreadable?_eq (same : SameBesidesScan file other) :
    unreadable? ids .file file = unreadable? ids .file other := by
  have apart : EntityKind.file.optionsTag ≠ 9 := by decide
  simp only [unreadable?, retrieveOwned]
  rw [← Message.child?_clear_ne file apart, same.rest, Message.child?_clear_ne other apart]

/-- Whether something cannot be read does not depend on the order, though what is met first may. -/
theorem SameBesidesScan.firstUnreadable?_isSome (same : SameBesidesScan file other) :
    (firstUnreadable? file ids (indexOf file)).isSome =
      (firstUnreadable? other ids (indexOf other)).isSome := by
  simp only [firstUnreadable?, unreadableAt?, same.resolveDeclaration_eq, same.unreadable?_eq,
    Option.isSome_or, List.isSome_findSome?]
  rw [same.scan.ofLocations_perm.any_eq]

/-! ### The plan -/

/-- The declarations that are put back to, each with its key. -/
def declaredOwners (buffer : Bytes) (file : Message) (ids : Ids) : List (Option Path × Described) :=
  (distinctPaths (locations file)).filterMap fun path =>
    (declarationAt? buffer file ids path).map fun entity => (some path, entity)

/-- The same declarations are put back to. -/
theorem SameBesidesScan.declaredOwners_perm (same : SameBesidesScan file other) :
    (declaredOwners buffer file ids).Perm (declaredOwners buffer other ids) := by
  simp only [declaredOwners, same.declarationAt?_eq]
  exact same.scan.distinctPaths_perm.filterMap _

theorem mem_declaredOwners {key : Option Path} {entity : Described} :
    (key, entity) ∈ declaredOwners buffer file ids ↔
      ∃ path, key = some path ∧ Restores buffer file ids (some path) entity := by
  simp only [declaredOwners, List.mem_filterMap, Option.map_eq_some_iff, Prod.mk.injEq,
    declarationAt?_eq_some]
  constructor
  · rintro ⟨path, _, _, restores, rfl, rfl⟩
    exact ⟨path, rfl, restores⟩
  · rintro ⟨path, rfl, restores⟩
    exact ⟨path, restores.path_mem, entity, restores, rfl, rfl⟩

/-- At most one declaration starts at a place. -/
theorem StartApart.eq_of_position_eq (apart : StartApart buffer file ids)
    {one two : Option Path × Described} (here : one ∈ declaredOwners buffer file ids)
    (there : two ∈ declaredOwners buffer file ids) (same : one.2.position = two.2.position) :
    one = two := by
  obtain ⟨path, key, restores⟩ := mem_declaredOwners.mp here
  obtain ⟨path', key', restores'⟩ := mem_declaredOwners.mp there
  obtain rfl := apart path path' one.2 two.2 restores restores' same
  have found := declarationAt?_eq_some.mpr restores
  rw [declarationAt?_eq_some.mpr restores'] at found
  exact Prod.ext (key.trans key'.symm) (Option.some.inj found).symm

theorem StartApart.of_nodup
    (distinct : ((declaredOwners buffer file ids).map (·.2.position)).Nodup) :
    StartApart buffer file ids := by
  intro path path' entity entity' restores restores' same
  have here := mem_declaredOwners.mpr ⟨path, rfl, restores⟩
  have there := mem_declaredOwners.mpr ⟨path', rfl, restores'⟩
  exact Option.some.inj (congrArg Prod.fst (List.inj_on_of_nodup_map distinct here there same))

/-- The only insertion among the edits of an entity is that of its block. -/
theorem eq_block_of_insertsAt {entity : Described} {edit : Edit} {place : Int}
    (member : edit ∈ entity.edits buffer) (inserts : edit.insertsAt place = true) :
    entity.position = place ∧
      edit = .insertion entity.position
        (commentBlock buffer entity.position entity.descriptions) := by
  simp only [Described.edits, List.mem_append, List.mem_map, List.mem_singleton] at member
  rcases member with (⟨region, _, rfl⟩ | blank) | rfl
  · cases inserts
  -- Blanks before the declaration are deleted, which inserts nothing.
  · simp only [blanksBefore] at blank
    split at blank
    · cases blank
    · cases List.mem_singleton.mp blank
      cases inserts
  · exact ⟨by simpa [Edit.insertsAt] using inserts, rfl⟩

/-- Insertions at one place keep their order when the declarations are put in another. -/
theorem StartApart.reorders (apart : StartApart buffer file ids)
    {moved : List (Option Path × Described)} (own : List (Option Path × Described))
    (perm : (declaredOwners buffer file ids).Perm moved) :
    Reorders ((declaredOwners buffer file ids ++ own).flatMap (·.2.edits buffer))
      ((moved ++ own).flatMap (·.2.edits buffer)) := by
  refine ⟨(perm.append_right own).flatMap_right _, fun place => ?_⟩
  rw [List.flatMap_append, List.flatMap_append, List.filter_append, List.filter_append]
  congr 1
  -- There is one such insertion at most, so the order of the declarations does not show.
  refine eq_of_perm_of_alike ((perm.flatMap_right _).filter _) ?_
  intro one here two there
  obtain ⟨here, inserts⟩ := List.mem_filter.mp here
  obtain ⟨there, inserts'⟩ := List.mem_filter.mp there
  obtain ⟨owner, listed, mine⟩ := List.mem_flatMap.mp here
  obtain ⟨owner', listed', yours⟩ := List.mem_flatMap.mp there
  obtain ⟨placed, rfl⟩ := eq_block_of_insertsAt mine inserts
  obtain ⟨placed', rfl⟩ := eq_block_of_insertsAt yours inserts'
  have position : owner.2.position = owner'.2.position := by omega
  rw [apart.eq_of_position_eq listed listed' position]

/-- The same edits are staged, and those that insert at one place in the same order. -/
theorem SameBesidesScan.plan_reorders (same : SameBesidesScan file other)
    (apart : StartApart buffer file ids) :
    Reorders ((Restoration.plan buffer file ids).edits buffer)
      ((Restoration.plan buffer other ids).edits buffer) := by
  rw [plan_edits, plan_edits]
  rw [ownersOf, ownersOf, ← same.describedFile?_eq]
  exact apart.reorders _ same.declaredOwners_perm

/-- The order in which locations are listed does not matter: restoring gives the same text for all
of them, or fails for all of them. Where several options cannot be read, the first of them is
named, and which one that is depends on the order. -/
theorem restore_scanOrder {source : List Char} (same : SameBesidesScan file other)
    (apart : StartApart (encode source) file ids) :
    (restore source file ids).result = (restore source other ids).result ∨
      ∃ error error', (restore source file ids).result = .error (.unwritable error) ∧
        (restore source other ids).result = .error (.unwritable error') := by
  have alike : (firstUnreadable? file ids (indexOf file)).isSome =
      (firstUnreadable? other ids (indexOf other)).isSome := same.firstUnreadable?_isSome
  cases found : firstUnreadable? file ids (indexOf file) with
  | some error =>
    obtain ⟨error', found'⟩ := Option.isSome_iff_exists.mp (alike.symm.trans (found ▸ rfl))
    exact Or.inr ⟨error, error', restore_of_unreadable found source,
      restore_of_unreadable found' source⟩
  | none =>
    have found' := Option.isSome_eq_false_iff.mp (alike.symm.trans (found ▸ rfl))
    -- Splicing sees the edits in sorted order only.
    have spliced := (same.plan_reorders apart).splice_eq (encode source)
    left
    rw [(restore_of_readable found source).2,
      (restore_of_readable (Option.isNone_iff_eq_none.mp found') source).2, spliced]

/-- A source with two option entries. -/
def twiceBracketedSource : List Char :=
  "enum E \x7b\n  A = 0 [(d) = \"x\"];\n  B = 1 [(d) = \"y\"];\n\x7d\n".toList

/-- What `twiceBracketedSource` compiles to, with its locations in the given order. -/
def twiceBracketedFile (scan : List Entry) : Message :=
  [.message 5
    [.message 2 [.message 3 [.unknown (Wire.delimitedRecord standardNumber.value [0x78])]],
     .message 2 [.message 3 [.unknown (Wire.delimitedRecord standardNumber.value [0x79])]]],
   .message 9 scan]

/-- The locations of `twiceBracketedSource` in the order of the source. -/
def sourceScan : List Entry :=
  [.message 1 [.packed 1 [5, 0, 2, 0], .packed 2 [1, 2, 18]],
   .message 1 [.packed 1 [5, 0, 2, 0, 3, 1000], .packed 2 [1, 9, 18]],
   .message 1 [.packed 1 [5, 0, 2, 1], .packed 2 [2, 2, 18]],
   .message 1 [.packed 1 [5, 0, 2, 1, 3, 1000], .packed 2 [2, 9, 18]]]

/-- Listed backwards, the two entries are put back to the same text. -/
theorem restore_scanOrder_backwards :
    SameBesidesScan (twiceBracketedFile sourceScan) (twiceBracketedFile sourceScan.reverse) ∧
    StartApart (encode twiceBracketedSource) (twiceBracketedFile sourceScan)
      (.uniform standardNumber) ∧
    (restore twiceBracketedSource (twiceBracketedFile sourceScan) (.uniform standardNumber)).result
      = .ok "enum E \x7b\n  // x\n  A = 0;\n  // y\n  B = 1;\n\x7d\n".toList ∧
    (restore twiceBracketedSource (twiceBracketedFile sourceScan.reverse)
      (.uniform standardNumber)).result =
      .ok "enum E \x7b\n  // x\n  A = 0;\n  // y\n  B = 1;\n\x7d\n".toList := by
  have same : SameBesidesScan (twiceBracketedFile sourceScan)
      (twiceBracketedFile sourceScan.reverse) := by
    exact ⟨rfl, .of_nodup (List.reverse_perm _).symm (by decide)⟩
  have apart : StartApart (encode twiceBracketedSource) (twiceBracketedFile sourceScan)
      (.uniform standardNumber) := by
    have positions : (declaredOwners (encode twiceBracketedSource) (twiceBracketedFile sourceScan)
        (.uniform standardNumber)).map (·.2.position) = [11, 32] := by
      cbv
    exact .of_nodup (positions ▸ by decide)
  have restored : (restore twiceBracketedSource (twiceBracketedFile sourceScan)
      (.uniform standardNumber)).result =
      .ok "enum E \x7b\n  // x\n  A = 0;\n  // y\n  B = 1;\n\x7d\n".toList := by
    cbv
  rcases restore_scanOrder same apart with alike | ⟨_, _, failed, _⟩
  · exact ⟨same, apart, restored, alike ▸ restored⟩
  · cases restored.symm.trans failed

end SchemaDoc.Description
