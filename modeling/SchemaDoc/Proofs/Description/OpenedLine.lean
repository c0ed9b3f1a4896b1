import SchemaDoc.Proofs.Description.CommentBlock
import SchemaDoc.Proofs.Description.Restoration
import SchemaDoc.Proofs.Editing.LastByte
import SchemaDoc.Proofs.Text.Blank

/-!
# What an opened line leaves behind

A declaration with code before it on its line moves to a line of its own: its block of comments
starts with a newline, and the blanks between that code and the declaration go. So the line before
ends with code, as long as the code is still there.

Two things may put a blank right before that newline after all. The last byte of the code is itself
removed, as an option statement or the list of another declaration may stand there, and a blank
before it is left. Or another block is put right before, whose last line is the indentation of the
declaration that it belongs to.
-/
namespace SchemaDoc.Description

open Descriptor (Message Path)
open Editing
open Text (Bytes encode isBlankByte leadingBlanks trimEnd)

/-- The blanks that trail on a line: those of ASCII, but for the newline. -/
def isTrailingBlank (byte : UInt8) : Bool :=
  isBlankByte byte && byte != newline

/-- The last byte is a blank that trails. -/
def EndsInBlank (bytes : Bytes) : Prop :=
  ∃ byte, bytes.getLast? = some byte ∧ isTrailingBlank byte = true

/-- The blanks that the line of a place starts with, before the place. -/
def indentationAt (buffer : Bytes) (position : Nat) : List Char :=
  (leadingBlanks (linePrefix buffer position)).1

/-- Code stands before an entity on its line, so its comments open a line. -/
def Described.OpensLine (buffer : Bytes) (entity : Described) : Prop :=
  (leadingBlanks (linePrefix buffer entity.position)).2 ≠ []

/-- The entities whose blocks come before a place, of those that are put back before and after the
one that is put there. -/
def earlierEntities (front rest : List Described) (position : Nat) : List Described :=
  front.filter (fun entity => entity.position ≤ position) ++
    rest.filter (fun entity => entity.position < position)

/-- The blocks of entities. -/
def blocksOf (buffer : Bytes) (entities : List Described) : List (Int × Bytes) :=
  entities.map (Described.block buffer)

/-- `text` is cut at the newline that the block of an entity starts with: `before` is what becomes
of the source up to the entity. -/
structure OpenedAt (buffer : Bytes) (removed : Int → Bool) (earlier : List Described)
    (entity : Described) (before block after text : Bytes) : Prop where
  opens : commentBlock buffer entity.position entity.descriptions = newline :: block
  parts : text = before ++ newline :: (block ++ after)
  woven : Sweeps (weaveAt (buffer.take entity.position) removed (blocksOf buffer earlier)) before

/-- A byte of the code before a place on its line is removed, and of what stands before the place a
blank before that byte is left last. -/
structure LosesCode (buffer : Bytes) (removed : Int → Bool) (earlier : List Described)
    (position blank code : Nat) : Prop where
  left : LeftLast (buffer.take position) removed (blocksOf buffer earlier) blank
  trails : Holds isTrailingBlank buffer blank
  apart : blank < code ∧ code < position
  line : lineStart buffer position ≤ code
  solid : Holds (fun byte => !isBlankByte byte) buffer code
  lost : removed code = true

/-- Of what stands before a place, a block is put last, and it ends with the blanks of its
indentation. -/
def FollowsIndentation (buffer : Bytes) (removed : Int → Bool) (earlier : List Described)
    (position : Nat) : Prop :=
  ∃ ahead other behind, earlier = ahead ++ other :: behind ∧
    PutLast (buffer.take position) removed (blocksOf buffer ahead) (blocksOf buffer behind)
      other.position ∧
    EndsInBlank (encode (indentationAt buffer other.position))

/-! ### How blocks start and end -/

/-- Behind the last line of a block stands the indentation for the declaration. -/
theorem commentBlock_ends (buffer : Bytes) (position : Nat) {descriptions : List Bytes}
    (described : descriptions ≠ []) :
    ∃ lines, commentBlock buffer position descriptions =
      lines ++ newline :: encode (indentationAt buffer position) := by
  rcases cut : leadingBlanks (linePrefix buffer position) with ⟨indent, code⟩
  have filled : blockTexts indent descriptions ≠ [] := by
    rw [blockTexts, Ne, List.flatMap_eq_nil_iff]
    intro none
    obtain ⟨description, rest, rfl⟩ := List.exists_cons_of_ne_nil described
    exact Comment.lineTexts_ne_nil _ _ (none description (by simp))
  obtain ⟨texts, last, split⟩ : ∃ texts last, blockTexts indent descriptions = texts ++ [last] :=
    ⟨_, _, (List.dropLast_append_getLast filled).symm⟩
  refine ⟨encode ((if code.isEmpty then [] else '\n' :: indent) ++
    (Comment.indentedLines indent texts ++ (Comment.mark ++ last))), ?_⟩
  rw [commentBlock_eq cut, split, Comment.indentedLines_concat, ← List.append_assoc,
    Text.encode_append, indentationAt, cut]
  rfl

theorem endsInBlank_append_newline (lines indent : Bytes) :
    EndsInBlank (lines ++ newline :: indent) ↔ EndsInBlank indent := by
  simp only [EndsInBlank]
  rw [List.getLast?_append_of_ne_nil _ (List.cons_ne_nil _ _)]
  cases indent with
  | nil => simp [isTrailingBlank]
  | cons first more => rw [List.getLast?_cons_of_ne_nil (List.cons_ne_nil _ _)]

/-- The block of an entity that opens a line starts with the newline that ends the line before. -/
theorem Described.OpensLine.block_eq {buffer : Bytes} {entity : Described}
    (opens : entity.OpensLine buffer) :
    ∃ block, commentBlock buffer entity.position entity.descriptions = newline :: block := by
  rcases cut : leadingBlanks (linePrefix buffer entity.position) with ⟨indent, code⟩
  have code : code.isEmpty = false := by
    rw [Described.OpensLine, cut] at opens
    simpa using opens
  rw [commentBlock_eq cut, code]
  exact ⟨_, rfl⟩

theorem Restores.described {buffer : Bytes} {file : Message} {ids : Ids} {key : Option Path}
    {entity : Described} (restores : Restores buffer file ids key entity) :
    entity.descriptions ≠ [] := by
  cases restores with
  | declaration _ _ described => exact described
  | file _ described => exact described

/-! ### The code before a declaration -/

/-- Between the last byte of the code before a declaration and the declaration everything goes. -/
theorem Described.OpensLine.exists_code {buffer : Bytes} {entity : Described}
    (opens : entity.OpensLine buffer) (inside : entity.position ≤ buffer.length) :
    ∃ code : Nat, lineStart buffer entity.position ≤ code ∧ code < entity.position ∧
      Holds (fun byte => !isBlankByte byte) buffer code ∧
      ∀ place : Int, code < place → place < entity.position →
        deleted (blanksBefore buffer entity.position) place = true := by
  obtain ⟨tail, parts, blank⟩ :=
    Text.trimEnd_append_blanks isBlankByte (linePrefix buffer entity.position)
  have ends (byte : UInt8) :=
    @Text.not_blank_of_getLast?_trimEnd _ isBlankByte (linePrefix buffer entity.position) byte
  have solid : trimEnd isBlankByte (linePrefix buffer entity.position) ≠ [] := by
    -- A line of blanks of ASCII has no code on it, whichever blanks the indentation counts.
    intro none
    rw [none, List.nil_append] at parts
    exact opens (Text.leadingBlanks_of_blank (parts ▸ blank))
  have low := lineStart_le inside
  have span := length_linePrefix inside
  have size := congrArg List.length parts
  rw [List.length_append] at size
  rw [blanksBefore]
  generalize trimEnd isBlankByte (linePrefix buffer entity.position) = kept at *
  have filled := List.length_pos_iff.mpr solid
  refine ⟨lineStart buffer entity.position + (kept.length - 1), Nat.le_add_right _ _, by omega,
    holds_natCast.mpr ⟨kept.getLast solid, ?_, ?_⟩, ?_⟩
  · have stands : (linePrefix buffer entity.position)[kept.length - 1]? =
        some (kept.getLast solid) := by
      rw [parts, List.getElem?_append_left (by omega), ← List.getLast?_eq_getElem?,
        List.getLast?_eq_some_getLast solid]
    rwa [linePrefix_eq inside, List.getElem?_drop, List.getElem?_take_of_lt (by omega)] at stands
  · simpa using ends _ (List.getLast?_eq_some_getLast solid)
  · intro place above below
    simp only [List.isEmpty_eq_false_iff.mpr solid, Bool.false_or]
    split
    next none =>
      simp only [decide_eq_true_eq] at none
      omega
    · rw [deleted_deletion, Bool.or_eq_true, Bool.and_eq_true, decide_eq_true_eq,
        decide_eq_true_eq]
      omega

/-! ### The last byte before an opened line -/

theorem blocksOf_earlier (buffer : Bytes) (front rest : List Described) (position : Nat) :
    blocksOf buffer (earlierEntities front rest position) =
      earlierBlocks (blocksOf buffer front) (blocksOf buffer rest) position := by
  rw [blocksOf, earlierEntities, earlierBlocks, List.map_append, blocksOf, blocksOf,
    List.filter_map, List.filter_map]
  congr 2 <;> apply List.filter_congr <;> intro entity _ <;> simp [Described.block]

/-- What stands before an opened line ends in a blank in two cases only. -/
theorem OpenedAt.endsInBlank_iff {buffer : Bytes} {removed : Int → Bool}
    {earlier : List Described} {entity : Described} {before block after text : Bytes}
    (opened : OpenedAt buffer removed earlier entity before block after text)
    (inside : entity.position ≤ buffer.length) (opens : entity.OpensLine buffer)
    (described : ∀ other ∈ earlier, other.descriptions ≠ [])
    (trimmed : ∀ place, deleted (blanksBefore buffer entity.position) place = true →
      removed place = true) :
    EndsInBlank before ↔
      (∃ blank code, LosesCode buffer removed earlier entity.position blank code) ∨
        FollowsIndentation buffer removed earlier entity.position := by
  have filled : ∀ block ∈ blocksOf buffer earlier, block.2 ≠ [] := by
    intro block member
    obtain ⟨other, known, rfl⟩ := List.mem_map.mp member
    obtain ⟨lines, ends⟩ := commentBlock_ends buffer other.position (described other known)
    simp [Described.block, ends]
  have size : (buffer.take entity.position).length = entity.position := by
    rw [List.length_take, Nat.min_eq_left inside]
  obtain ⟨code, line, below, solid, gone⟩ := opens.exists_code inside
  constructor
  · rintro ⟨byte, last, trails⟩
    rcases (opened.woven.getLast?_weave filled).mp last with
      ⟨blank, left, stands⟩ | ⟨ahead, block, behind, split, put, ends⟩
    · -- A blank that is kept is not between the code and the entity, so it is before the code.
      rw [List.getElem?_take] at stands
      split at stands
      next early =>
        have apart : blank < code := by
          rcases Nat.lt_trichotomy blank code with apart | rfl | behind
          · exact apart
          · obtain ⟨other, there, solid⟩ := holds_natCast.mp solid
            cases stands.symm.trans there
            simp only [isTrailingBlank, Bool.and_eq_true] at trails
            simp [trails.1] at solid
          · have lost := trimmed blank (gone blank (by omega) (by omega))
            rw [left.kept] at lost
            cases lost
        exact Or.inl ⟨blank, code, left, holds_natCast.mpr ⟨byte, stands, trails⟩,
          ⟨apart, below⟩, line, solid, left.gone code apart (by omega)⟩
      · cases stands
    · refine Or.inr ?_
      obtain ⟨front, second, rfl, rfl, same⟩ := List.map_eq_append_iff.mp split
      obtain ⟨other, rest, rfl, rfl, rfl⟩ := List.map_eq_cons_iff.mp same
      obtain ⟨lines, shape⟩ := commentBlock_ends buffer other.position (described other (by simp))
      refine ⟨front, other, rest, rfl, put, ?_⟩
      rw [← endsInBlank_append_newline lines, ← shape]
      exact ⟨byte, ends, trails⟩
  · rintro (⟨blank, code, lost⟩ | ⟨ahead, other, behind, rfl, put, byte, ends, trails⟩)
    · obtain ⟨byte, stands, trails⟩ := holds_natCast.mp lost.trails
      have early : blank < entity.position := Nat.lt_trans lost.apart.1 lost.apart.2
      refine ⟨byte, (opened.woven.getLast?_weave filled).mpr (Or.inl ⟨blank, lost.left, ?_⟩),
        trails⟩
      rw [List.getElem?_take_of_lt early, stands]
    · obtain ⟨lines, shape⟩ := commentBlock_ends buffer other.position (described other (by simp))
      obtain ⟨byte, ends, trails⟩ :=
        (endsInBlank_append_newline lines _).mpr ⟨byte, ends, trails⟩
      rw [← shape] at ends
      refine ⟨byte, (opened.woven.getLast?_weave filled).mpr (Or.inr ⟨blocksOf buffer ahead,
        other.block buffer, blocksOf buffer behind, by simp [blocksOf], put, ends⟩), trails⟩

/-! ### Opened lines of a restored source -/

/-- Whenever restoring returns and an entity opens a line, the newline that it puts there stands
behind what becomes of the source before it, and that ends in a blank if and only if code before
the entity is removed up to a blank that is left, or another block ends there with blanks. -/
theorem restore_opensLine_endsInBlank_iff {source text : List Char} {file : Message} {ids : Ids}
    (returned : (restore source file ids).result = .ok text) :
    ∃ removed owners, Rewrites source file ids removed owners text ∧
      ∀ front entity rest, owners.map (·.2) = front ++ entity :: rest →
        entity.OpensLine (encode source) →
        ∃ before block after,
          OpenedAt (encode source) removed (earlierEntities front rest entity.position) entity
            before block after (encode text) ∧
          (EndsInBlank before ↔
            (∃ blank code, LosesCode (encode source) removed
              (earlierEntities front rest entity.position) entity.position blank code) ∨
            FollowsIndentation (encode source) removed
              (earlierEntities front rest entity.position) entity.position) := by
  have rewrites := plan_rewrites returned
  refine ⟨_, _, rewrites, fun front entity rest split opens => ?_⟩
  -- The entity and those around it are described by the file.
  have restores : ∀ other ∈ front ++ entity :: rest,
      ∃ key, (key, other) ∈ ownersOf (encode source) file ids ∧
        Restores (encode source) file ids key other := by
    intro other member
    rw [← split] at member
    obtain ⟨⟨key, _⟩, owned, rfl⟩ := List.mem_map.mp member
    exact ⟨key, owned, mem_ownersOf.mp owned⟩
  obtain ⟨key, owned, own⟩ := restores entity (by simp)
  obtain ⟨block, starts⟩ := opens.block_eq
  -- The blocks that are woven in are those of the entities in front, its own, and the rest.
  have woven := rewrites.woven
  have blocks : (ownersOf (encode source) file ids).map (·.2.block (encode source)) =
      blocksOf (encode source) front ++ ((entity.position : Int), newline :: block) ::
        blocksOf (encode source) rest := by
    rw [← starts]
    have mapped := congrArg (List.map (Described.block (encode source))) split
    rwa [List.map_map, List.map_append, List.map_cons] at mapped
  rw [blocks] at woven
  obtain ⟨before, after, parts, sweeps⟩ := woven.cut_block
  rw [← blocksOf_earlier] at sweeps
  have opened : OpenedAt (encode source) _ (earlierEntities front rest entity.position) entity
      before block after (encode text) := ⟨starts, parts, sweeps⟩
  refine ⟨before, block, after, opened, opened.endsInBlank_iff own.position_le opens ?_ ?_⟩
  · intro other member
    have known : other ∈ front ++ entity :: rest := by
      rcases List.mem_append.mp member with ahead | behind
      · exact List.mem_append_left _ (List.mem_filter.mp ahead).1
      · exact List.mem_append_right _ (List.mem_cons_of_mem _ (List.mem_filter.mp behind).1)
    obtain ⟨_, _, own⟩ := restores other known
    exact own.described
  · intro place gone
    exact deleted_plan.mpr ⟨(key, entity), owned, deleted_edits.mpr (Or.inr gone)⟩

/-- A message with an option statement and a described field on its line. -/
def sharedSource : List Char :=
  "message M \x7b option (d) = \"x\"; int32 a = 1 [(e) = \"y\"]; \x7d\n".toList

/-- What `sharedSource` compiles to: both the message and the field are described. -/
def sharedFile : Message :=
  [.message 4
    [.message 2 [.message 8 [.unknown (Wire.delimitedRecord standardNumber.value [0x79])]],
     .message 7 [.unknown (Wire.delimitedRecord standardNumber.value [0x78])]],
   .message 9
    [.message 1 [.packed 1 [4, 0], .packed 2 [0, 0, 57]],
     .message 1 [.packed 1 [4, 0, 7, 1000], .packed 2 [0, 12, 29]],
     .message 1 [.packed 1 [4, 0, 2, 0], .packed 2 [0, 30, 54]],
     .message 1 [.packed 1 [4, 0, 2, 0, 8, 1000], .packed 2 [0, 43, 52]]]]

/-- What becomes of `sharedSource`: the blank before the option statement is left. -/
def sharedText : List Char :=
  "// x\nmessage M \x7b \n// y\nint32 a = 1; \x7d\n".toList

/-- The comment of the field opens a line. -/
theorem sharedFile_restores : ∃ entity,
    Restores (encode sharedSource) sharedFile (.uniform standardNumber) (some [4, 0, 2, 0]) entity ∧
      entity.OpensLine (encode sharedSource) ∧
      commentBlock (encode sharedSource) entity.position entity.descriptions =
        encode "\n// y\n".toList := by
  refine ⟨_, .declaration rfl rfl ?_ rfl rfl, ?_, by cbv⟩
  · cbv
    exact List.cons_ne_nil _ _
  · rw [Described.OpensLine]
    cbv
    exact List.cons_ne_nil _ _

/-- The comment of the field stands at one place of the restored text. -/
theorem sharedText_block : ∀ place ≤ (encode sharedText).length,
    ((encode sharedText).drop place).take 6 = encode "\n// y\n".toList → place = 17 := by
  decide +kernel

/-- The option statement is the last code before the field, and the blank before it is left. -/
theorem restore_opensLine_endsInBlank_shared :
    (restore sharedSource sharedFile (.uniform standardNumber)).result = .ok sharedText ∧
    ∃ removed owners,
      Rewrites sharedSource sharedFile (.uniform standardNumber) removed owners sharedText ∧
      ∃ front entity rest, owners.map (·.2) = front ++ entity :: rest ∧
        entity.OpensLine (encode sharedSource) ∧
        ∃ before block after,
          OpenedAt (encode sharedSource) removed (earlierEntities front rest entity.position)
            entity before block after (encode sharedText) ∧
          EndsInBlank before ∧
          ((∃ blank code, LosesCode (encode sharedSource) removed
              (earlierEntities front rest entity.position) entity.position blank code) ∨
            FollowsIndentation (encode sharedSource) removed
              (earlierEntities front rest entity.position) entity.position) := by
  have returned : (restore sharedSource sharedFile (.uniform standardNumber)).result =
      .ok sharedText := by
    cbv
  obtain ⟨entity, restores, opens, shown⟩ := sharedFile_restores
  obtain ⟨removed, owners, rewrites, opened⟩ := restore_opensLine_endsInBlank_iff returned
  have known : entity ∈ owners.map (·.2) :=
    List.mem_map.mpr ⟨_, (rewrites.exact _ _).mpr restores, rfl⟩
  obtain ⟨front, rest, split⟩ := List.append_of_mem known
  obtain ⟨before, block, after, cut, blank⟩ := opened front entity rest split opens
  -- The block stands at one place of the text, and there is a blank before it.
  have place : before.length = 17 := by
    apply sharedText_block
    · rw [cut.parts, List.length_append]
      exact Nat.le_add_right _ _
    · rw [cut.parts, List.drop_left, ← List.cons_append, ← cut.opens, shown]
      rfl
  have ends : EndsInBlank before := by
    have front : before = (encode sharedText).take 17 := by
      rw [← place, cut.parts, List.take_left]
    rw [front]
    exact ⟨0x20, rfl, rfl⟩
  exact ⟨returned, removed, owners, rewrites, front, entity, rest, split, opens, before, block,
    after, cut, ends, blank.mp ends⟩

end SchemaDoc.Description
