import SchemaDoc.Proofs.Description.Embedding
import SchemaDoc.Proofs.Description.Restoration

/-!
# How many comments are said to be restored

The last thing that restoring logs is a number of comments. It is the number of the descriptions
that are put back to declarations, however many locations a declaration has and however many
descriptions. The descriptions of the file itself are put back as well and do not count.
-/
namespace SchemaDoc.Description

open Descriptor (Message Path)
open Text (Bytes encode)

variable {buffer : Bytes} {file : Message} {ids : Ids}

/-- The entry that says how many comments were restored in a file. -/
def restoredEntry (file : Message) (count : Nat) : LogEntry where
  level := .info
  message := "Restored " ++ toString count ++ " comment(s) in " ++ fileName file

/-- How many descriptions are put back to entities. -/
def putBackCount (owners : List (Option Path × Described)) : Nat :=
  (owners.map (·.2.descriptions.length)).sum

theorem restore_log_getLast? {source text : List Char}
    (returned : (restore source file ids).result = .ok text) :
    (restore source file ids).log.getLast? =
      some (restoredEntry file (Restoration.plan (encode source) file ids).count) := by
  have readable := (restore_result_ok_iff.mp returned).1
  rw [(restore_of_readable readable source).1, Restoration.log, List.getLast?_concat]
  rfl

/-- What is put back to a file are the descriptions that it has itself. -/
theorem describedFile?_descriptions (index : LocationIndex) :
    ((describedFile? buffer file ids index).toList.map (·.descriptions.length)).sum =
      (ownDescriptions ids file).length := by
  rw [describedFile?, ownDescriptions]
  cases ids.forKind .file with
  | none => rfl
  | some number =>
    simp only
    split
    next none => simp [List.isEmpty_iff.mp none]
    next => simp

/-- Everything that is put back is counted but for the descriptions of the file. -/
theorem count_plan_add (buffer : Bytes) (file : Message) (ids : Ids) :
    (Restoration.plan buffer file ids).count + (ownDescriptions ids file).length =
      putBackCount (ownersOf buffer file ids) := by
  have entities : putBackCount (ownersOf buffer file ids) =
      ((Restoration.plan buffer file ids).entities.map (·.descriptions.length)).sum := by
    rw [putBackCount, entities_plan, List.map_map]
    rfl
  -- The file stands behind the declarations, and those are all that the plan counts.
  rw [entities, Restoration.entities, List.map_append, List.sum_append, Restoration.count,
    List.length_flatMap]
  congr 1
  exact (describedFile?_descriptions _).symm

/-- Whenever restoring returns, the number that it reports and that of the file's own descriptions
make up the number of all descriptions that are put back to described entities. -/
theorem restore_reports {source text : List Char} {file : Message} {ids : Ids}
    (returned : (restore source file ids).result = .ok text) :
    ∃ removed owners reported, Rewrites source file ids removed owners text ∧
      (restore source file ids).log.getLast? = some (restoredEntry file reported) ∧
      reported + (ownDescriptions ids file).length = putBackCount owners :=
  ⟨_, _, _, plan_rewrites returned, restore_log_getLast? returned,
    count_plan_add (encode source) file ids⟩

/-- A source with an option entry of its own and one in a message. -/
def twiceStatedSource : List Char :=
  "option d=\"x\";\nmessage M \x7b\n  option d=\"y\";\n\x7d\n".toList

/-- What `twiceStatedSource` compiles to: both entries are stored, each in its options. -/
def twiceStatedFile : Message :=
  [.message 4 [.message 7 [entryOf standardNumber [0x79]]],
   .message 8 [entryOf standardNumber [0x78]],
   .message 9
    [.message 1 [.packed 1 [8, 1000], .packed 2 [0, 0, 13]],
     .message 1 [.packed 1 [4, 0], .packed 2 [1, 0, 3, 1]],
     .message 1 [.packed 1 [4, 0, 7, 1000], .packed 2 [2, 2, 15]]]]

/-- Two descriptions are put back, and the number that is reported is one less. -/
theorem restore_reports_twice :
    (restore twiceStatedSource twiceStatedFile (.uniform standardNumber)).result =
      .ok "// x\n// y\nmessage M \x7b\n\x7d\n".toList ∧
    (restore twiceStatedSource twiceStatedFile (.uniform standardNumber)).log.getLast? =
      some (restoredEntry twiceStatedFile 1) ∧
    (ownDescriptions (.uniform standardNumber) twiceStatedFile).length = 1 ∧
    ∃ removed owners reported,
      Rewrites twiceStatedSource twiceStatedFile (.uniform standardNumber) removed owners
        "// x\n// y\nmessage M \x7b\n\x7d\n".toList ∧
      (restore twiceStatedSource twiceStatedFile (.uniform standardNumber)).log.getLast? =
        some (restoredEntry twiceStatedFile reported) ∧
      reported + 1 = putBackCount owners := by
  have returned : (restore twiceStatedSource twiceStatedFile (.uniform standardNumber)).result =
      .ok "// x\n// y\nmessage M \x7b\n\x7d\n".toList := by
    cbv
  have counted : (Restoration.plan (encode twiceStatedSource) twiceStatedFile
      (.uniform standardNumber)).count = 1 := by
    cbv
  refine ⟨returned, ?_, rfl, restore_reports returned⟩
  rw [restore_log_getLast? returned, counted]

end SchemaDoc.Description
