import SchemaDoc.Proofs.Description.CommentBlock
import SchemaDoc.Proofs.Description.Embedding
import SchemaDoc.Proofs.Description.Restoration

/-!
# Embedding and then restoring

What restoring puts before a declaration are the words of what embedding stored for it. The two
meet in the options of the declaration: they hold the comments of its locations, each once, and
the first of these locations is also where the block of comments goes.
-/
namespace SchemaDoc.Description

open Comment
open Descriptor
open Text (Bytes encode isBlank leadingBlanks words)

/-- The words of a comment that is text. -/
def commentWords (comment : Bytes) : List (List Char) :=
  match Text.decode comment with
  | some text => words text
  | none => []

/-- No declaration has descriptions under the number of its kind, nor has the file. -/
structure Ids.AreUnusedIn (ids : Ids) (file : Message) : Prop where
  declared : ∀ path kind descriptor number,
    resolveDeclaration file path = some (kind, descriptor) → ids.forKind kind = some number →
      readOwned kind descriptor number.value = []
  own : ∀ number, ids.forKind .file = some number → readOwned .file file number.value = []

/-! ### The words of a block -/

theorem descriptionWords_eq {description : Bytes} (text : (Text.decode description).isSome) :
    descriptionWords description = commentWords description := by
  obtain ⟨content, found⟩ := Option.isSome_iff_exists.mp text
  rw [descriptionWords, commentWords, found]

/-- The lines of a block of comments hold the words of its descriptions. -/
theorem commentBlock_words (buffer : Bytes) (position : Nat) {descriptions : List Bytes}
    (texts : ∀ description ∈ descriptions, (Text.decode description).isSome) :
    ∃ block, commentBlock buffer position descriptions = encode block ∧
      blockWords block = descriptions.flatMap commentWords := by
  rcases cut : leadingBlanks (linePrefix buffer position) with ⟨indent, code⟩
  have indents : ∀ char ∈ indent, isBlank char = true ∧ char ≠ '\n' := by
    have blanks := indent_of_linePrefix buffer position
    rw [cut] at blanks
    exact blanks
  have unbroken : ∀ text ∈ blockTexts indent descriptions, '\n' ∉ text :=
    fun text member => (isPlain_of_mem_blockTexts text member).newline_notMem
  have kept : (blockTexts indent descriptions).flatMap words =
      descriptions.flatMap commentWords := by
    rw [blockTexts, List.flatMap_assoc]
    apply List.flatMap_congr
    intro description member
    rw [← descriptionWords_eq (texts description member)]
    exact words_pack _ [] fun _ => isWord_of_mem_descriptionWords
  refine ⟨_, commentBlock_eq cut descriptions, ?_⟩
  rw [← kept]
  split
  · have flush : ∀ char ∈ ([] : List Char), isBlank char = true ∧ char ≠ '\n' := by simp
    exact blockWords_indentedLines flush indents unbroken
  · -- The block opens a line of its own, and what is left of the old one has no words.
    rw [List.cons_append, blockWords_newline]
    exact blockWords_indentedLines indents indents unbroken

/-- The block of an entity whose descriptions are texts has their words. -/
theorem Described.block_words (buffer : Bytes) (entity : Described)
    (texts : ∀ description ∈ entity.descriptions, (Text.decode description).isSome) :
    ∃ block, entity.block buffer = ((entity.position : Int), encode block) ∧
      blockWords block = entity.descriptions.flatMap commentWords := by
  obtain ⟨block, written, kept⟩ := commentBlock_words buffer entity.position texts
  exact ⟨block, by rw [Described.block, written], kept⟩

/-! ### What restoring finds -/

section Embedded

variable {buffer : Bytes} {ids : Ids} {join : Bool} {file final : Message} {count : Nat}

theorem resolveDeclaration_of_optionsAt {path : Path} {kind : EntityKind}
    {options : Option Message} (found : optionsAt file path = some (kind, options)) :
    ∃ descriptor, resolveDeclaration file path = some (kind, descriptor) ∧
      descriptor.child? kind.optionsTag = options := by
  obtain ⟨⟨_, descriptor⟩, resolves, same⟩ := Option.map_eq_some_iff.mp found
  cases same
  exact ⟨descriptor, resolves, rfl⟩

/-- A declaration that had no descriptions has its comments as descriptions. -/
theorem Fills.readOwned_eq (fills : Fills ids join file count final)
    (unused : ids.AreUnusedIn file) {path : Path} {kind : EntityKind} {descriptor : Message}
    (resolves : resolveDeclaration file path = some (kind, descriptor)) :
    ∃ after, resolveDeclaration final path = some (kind, after) ∧
      ∀ number, ids.forKind kind = some number →
        readOwned kind after number.value =
          addAllNew [] (commentsAt join (locations file) path) := by
  have grown := fills.options path
  rw [optionsAt_of_resolves resolves, Option.map_some] at grown
  obtain ⟨after, stands, options⟩ := resolveDeclaration_of_optionsAt grown
  refine ⟨after, stands, fun number numbered => ?_⟩
  have before := unused.declared path kind descriptor number resolves numbered
  rw [readOwned_eq_stored] at before ⊢
  rw [options, stored_receiveAll numbered, before]

/-- So has the file. -/
theorem Fills.readOwned_file (fills : Fills ids join file count final)
    (unused : ids.AreUnusedIn file) {number : OptionNumber}
    (numbered : ids.forKind .file = some number) :
    readOwned .file final number.value =
      addAllNew [] (fileText join (locations file)).toList := by
  have before := unused.own number numbered
  rw [readOwned_eq_stored] at before ⊢
  rw [fills.own, stored_receiveAll numbered, before]

/-- What is stored for the first time is text. -/
theorem Fills.isSome_decode (fills : Fills ids join file count final)
    (unused : ids.AreUnusedIn file) {path : Path} {kind : EntityKind} {descriptor : Message}
    {number : OptionNumber} (resolves : resolveDeclaration file path = some (kind, descriptor))
    (numbered : ids.forKind kind = some number) :
    ∀ comment ∈ commentsAt join (locations file) path, (Text.decode comment).isSome := by
  intro comment member
  have before := unused.declared path kind descriptor number resolves numbered
  rw [readOwned_eq_stored] at before
  have either := fills.texts path kind _ number (optionsAt_of_resolves resolves) numbered comment
    member
  rw [before] at either
  exact either.resolve_left List.not_mem_nil

theorem Fills.isSome_decode_file (fills : Fills ids join file count final)
    (unused : ids.AreUnusedIn file) {number : OptionNumber}
    (numbered : ids.forKind .file = some number) :
    ∀ comment ∈ (fileText join (locations file)).toList, (Text.decode comment).isSome := by
  intro comment member
  have before := unused.own number numbered
  rw [readOwned_eq_stored] at before
  have either := fills.ownText number numbered comment member
  rw [before] at either
  exact either.resolve_left List.not_mem_nil

/-- A declaration with comments is put back to, with a block of their words. -/
theorem Fills.restores_declaration (fills : Fills ids join file count final)
    (unused : ids.AreUnusedIn file) {path : Path} {kind : EntityKind} {descriptor : Message}
    {number : OptionNumber} {location : Location} {span : Span}
    (resolves : resolveDeclaration file path = some (kind, descriptor))
    (numbered : ids.forKind kind = some number)
    (first : (locations file).find? (·.path == path) = some location)
    (spans : location.span? = some span)
    (commented : commentsAt join (locations file) path ≠ []) :
    ∃ entity block, Restores buffer final ids (some path) entity ∧
      entity.block buffer = ((spanStart buffer span : Int), encode block) ∧
      blockWords block =
        (addAllNew [] (commentsAt join (locations file) path)).flatMap commentWords := by
  obtain ⟨after, stands, holds⟩ := fills.readOwned_eq unused resolves
  have descriptions := holds number numbered
  have described : readOwned kind after number.value ≠ [] := by
    rw [descriptions]
    exact addAllNew_ne_nil commented
  -- The locations are those of before, so the block goes where the first of them is.
  rw [← fills.sources] at first
  obtain ⟨entity, restores, held, place⟩ : ∃ entity, Restores buffer final ids (some path) entity ∧
      entity.descriptions = addAllNew [] (commentsAt join (locations file) path) ∧
      entity.position = spanStart buffer span :=
    ⟨_, .declaration stands numbered described first spans, descriptions, rfl⟩
  obtain ⟨block, placed, kept⟩ := entity.block_words buffer fun description member => by
    rw [held, mem_addAllNew] at member
    exact fills.isSome_decode unused resolves numbered description
      (member.resolve_left List.not_mem_nil)
  exact ⟨entity, block, restores, place ▸ placed, held ▸ kept⟩

theorem Fills.not_restores_declaration (fills : Fills ids join file count final)
    (unused : ids.AreUnusedIn file) {path : Path} {kind : EntityKind} {descriptor : Message}
    (resolves : resolveDeclaration file path = some (kind, descriptor))
    (nothing : ids.forKind kind = none ∨ commentsAt join (locations file) path = [])
    (entity : Described) : ¬ Restores buffer final ids (some path) entity := by
  intro restores
  obtain ⟨after, stands, holds⟩ := fills.readOwned_eq unused resolves
  cases restores with
  | declaration same numbered described =>
    rw [stands] at same
    cases same
    rcases nothing with disabled | uncommented
    · rw [disabled] at numbered
      cases numbered
    · rw [holds _ numbered, uncommented] at described
      exact described rfl

/-- A file with a comment about it is put back to in the same way. -/
theorem Fills.restores_file (fills : Fills ids join file count final)
    (unused : ids.AreUnusedIn file) {number : OptionNumber} {comment : Bytes}
    (numbered : ids.forKind .file = some number)
    (commented : fileText join (locations file) = some comment) :
    ∃ entity block, Restores buffer final ids none entity ∧
      entity.block buffer = ((fileCommentPosition buffer (indexOf file) : Int), encode block) ∧
      blockWords block = commentWords comment := by
  have descriptions := fills.readOwned_file unused numbered
  have readable := fills.isSome_decode_file unused numbered
  rw [commented] at descriptions readable
  have described : readOwned .file final number.value ≠ [] := by
    rw [descriptions]
    exact addAllNew_ne_nil (List.cons_ne_nil _ _)
  obtain ⟨entity, restores, held, place⟩ : ∃ entity, Restores buffer final ids none entity ∧
      entity.descriptions = addAllNew [] (some comment).toList ∧
      entity.position = fileCommentPosition buffer (indexOf final) :=
    ⟨_, .file numbered described, descriptions, rfl⟩
  obtain ⟨block, placed, kept⟩ := entity.block_words buffer fun description member => by
    rw [held, mem_addAllNew] at member
    exact readable description (member.resolve_left List.not_mem_nil)
  refine ⟨entity, block, restores, ?_, ?_⟩
  · rw [placed, place, indexOf, fills.sources]
  · rw [kept, held]
    exact List.append_nil _

theorem Fills.not_restores_file (fills : Fills ids join file count final)
    (unused : ids.AreUnusedIn file)
    (nothing : ids.forKind .file = none ∨ fileText join (locations file) = none)
    (entity : Described) : ¬ Restores buffer final ids none entity := by
  intro restores
  cases restores with
  | file numbered described =>
    rcases nothing with disabled | uncommented
    · rw [disabled] at numbered
      cases numbered
    · rw [fills.readOwned_file unused numbered, uncommented] at described
      exact described rfl

end Embedded

/-! ### There and back -/

/-- The entities put back to a source have the comments that were read off it in `file`. -/
structure GivesBack (source : List Char) (ids : Ids) (join : Bool) (file : Message)
    (owners : List (Option Path × Described)) : Prop where
  /-- A declaration with comments has a block before it with the words of each of them once. -/
  commented : ∀ path kind descriptor number location span,
    resolveDeclaration file path = some (kind, descriptor) → ids.forKind kind = some number →
      (locations file).find? (·.path == path) = some location → location.span? = some span →
        commentsAt join (locations file) path ≠ [] →
          ∃ entity block, (some path, entity) ∈ owners ∧
            entity.block (encode source) =
              ((spanStart (encode source) span : Int), encode block) ∧
            blockWords block =
              (addAllNew [] (commentsAt join (locations file) path)).flatMap commentWords
  /-- Nothing is put before a declaration without comments, or of a kind without a number. -/
  silent : ∀ path kind descriptor,
    resolveDeclaration file path = some (kind, descriptor) →
      ids.forKind kind = none ∨ commentsAt join (locations file) path = [] →
        ∀ entity, (some path, entity) ∉ owners
  /-- The comment about the file comes back, too. -/
  own : ∀ number comment, ids.forKind .file = some number →
    fileText join (locations file) = some comment →
      ∃ entity block, (none, entity) ∈ owners ∧
        entity.block (encode source) =
          ((fileCommentPosition (encode source) (indexOf file) : Int), encode block) ∧
        blockWords block = commentWords comment
  /-- Without a number or a comment about the file there is none. -/
  ownSilent : ids.forKind .file = none ∨ fileText join (locations file) = none →
    ∀ entity, (none, entity) ∉ owners

theorem gives_back {source : List Char} {ids : Ids} {join : Bool} {file final : Message}
    {count : Nat} {owners : List (Option Path × Described)}
    (fills : Fills ids join file count final) (unused : ids.AreUnusedIn file)
    (exact : ∀ key entity, (key, entity) ∈ owners ↔ Restores (encode source) final ids key entity) :
    GivesBack source ids join file owners := by
  constructor
  · intro path kind descriptor number location span resolves numbered first spans commented
    obtain ⟨entity, block, restores, placed, kept⟩ :=
      fills.restores_declaration unused resolves numbered first spans commented
    exact ⟨entity, block, (exact _ _).mpr restores, placed, kept⟩
  · intro path kind descriptor resolves nothing entity member
    exact fills.not_restores_declaration unused resolves nothing entity ((exact _ _).mp member)
  · intro number comment numbered commented
    obtain ⟨entity, block, restores, placed, kept⟩ :=
      fills.restores_file unused numbered commented
    exact ⟨entity, block, (exact _ _).mpr restores, placed, kept⟩
  · intro nothing entity member
    exact fills.not_restores_file unused nothing entity ((exact _ _).mp member)

/-- Restoring a file that was embedded gives back the words of every comment: each declaration
with comments gets one block, and no other gets any. -/
theorem restore_embedFile {source text : List Char} {file final : Message} {ids : Ids}
    {join : Bool} {count : Nat} (undeclared : ids.AreUndeclared) (unused : ids.AreUnusedIn file)
    (embedded : (embedFile ids join file).result = .ok (count, final))
    (restored : (restore source final ids).result = .ok text) :
    ∃ removed owners, Rewrites source final ids removed owners text ∧
      GivesBack source ids join file owners := by
  have rewrites := plan_rewrites restored
  exact ⟨_, _, rewrites, gives_back (embedFile_fills undeclared embedded) unused rewrites.exact⟩

/-- A source with one enum value. -/
def plainSource : List Char :=
  "enum E \x7b\n  A = 0;\n\x7d\n".toList

/-- What `plainSource` compiles to when its value has two comments, `one two` over two lines and
`one`. -/
def plainFile : Message :=
  [.message 5 [.message 2 [.text 1 [0x41]]],
   .message 9
    [.message 1
      [.packed 1 [5, 0, 2, 0], .packed 2 [1, 2, 8],
       .text 3 [0x6F, 0x6E, 0x65, 0x0A, 0x74, 0x77, 0x6F, 0x0A]],
     .message 1 [.packed 1 [5, 0, 2, 0], .packed 2 [1, 2, 8], .text 4 [0x6F, 0x6E, 0x65]]]]

/-- What becomes of `plainFile`. -/
def filledFile : Message :=
  [.message 5
    [.message 2
      [.text 1 [0x41],
       .message 3
        [entryOf standardNumber [0x6F, 0x6E, 0x65, 0x0A, 0x74, 0x77, 0x6F],
         entryOf standardNumber [0x6F, 0x6E, 0x65]]]],
   .message 9
    [.message 1
      [.packed 1 [5, 0, 2, 0], .packed 2 [1, 2, 8],
       .text 3 [0x6F, 0x6E, 0x65, 0x0A, 0x74, 0x77, 0x6F, 0x0A]],
     .message 1 [.packed 1 [5, 0, 2, 0], .packed 2 [1, 2, 8], .text 4 [0x6F, 0x6E, 0x65]]]]

theorem standardNumber_unused : (Ids.uniform standardNumber).AreUnusedIn plainFile where
  declared := by
    intro path kind descriptor number resolves numbered
    have paths : declarationPaths plainFile = [[5, 0], [5, 0, 2, 0]] := by cbv
    have listed := mem_declarationPaths.mpr (Option.isSome_of_eq_some resolves)
    rw [paths] at listed
    simp only [List.mem_cons, List.not_mem_nil, or_false] at listed
    rcases listed with rfl | rfl
    · cases resolves
      rfl
    · cases resolves
      rfl
  own := fun _ _ => rfl

/-- Both comments come back, each on its line. -/
theorem restore_embedFile_plain :
    (Ids.uniform standardNumber).AreUndeclared ∧
    (Ids.uniform standardNumber).AreUnusedIn plainFile ∧
    (embedFile (.uniform standardNumber) false plainFile).result = .ok (2, filledFile) ∧
    (restore plainSource filledFile (.uniform standardNumber)).result =
      .ok "enum E \x7b\n  // one two\n  // one\n  A = 0;\n\x7d\n".toList ∧
    ∃ removed owners, Rewrites plainSource filledFile (.uniform standardNumber) removed owners
        "enum E \x7b\n  // one two\n  // one\n  A = 0;\n\x7d\n".toList ∧
      GivesBack plainSource (.uniform standardNumber) false plainFile owners := by
  have embedded : (embedFile (.uniform standardNumber) false plainFile).result =
      .ok (2, filledFile) := by
    cbv
  have restored : (restore plainSource filledFile (.uniform standardNumber)).result =
      .ok "enum E \x7b\n  // one two\n  // one\n  A = 0;\n\x7d\n".toList := by
    cbv
  exact ⟨standardNumber_undeclared, standardNumber_unused, embedded, restored,
    restore_embedFile standardNumber_undeclared standardNumber_unused embedded restored⟩

end SchemaDoc.Description
