import Mathlib.Data.List.Forall2
import SchemaDoc.Proofs.Description.Growth
import SchemaDoc.Proofs.Descriptor.Rereading

/-!
# The files of a set

Embedding a set deals with its entries one by one. A file of the standard library stays, any other
takes its comments in and then loses its source information if that is asked for. The set that
comes out has the form in which sets are read, so its bytes are read as nothing else.
-/
namespace SchemaDoc.Description

open Descriptor
open Relation (ReflTransGen)
open Text (Bytes)

/-- Whether a file belongs to the standard library, by its name. -/
def isStandard (file : Message) : Bool :=
  (Text.decode (file.text 1)).any standardDirectory.isPrefixOf

/-- What becomes of an entry of a set. -/
inductive Settles (ids : Ids) (flags : EmbedFlags) : Entry → Entry → Prop
  | other {entry : Entry} (apart : Message.childOf? 1 entry = none) : Settles ids flags entry entry
  | file {file after : Message} (returned : (embedMember ids flags file).result = .ok after) :
    Settles ids flags (.message 1 file) (.message 1 after)

variable {ids : Ids} {flags : EmbedFlags}

theorem text_congr {first second : Message} {number : Nat}
    (same : first.texts number = second.texts number) : first.text number = second.text number := by
  rw [Message.text, Message.text, Message.text?, Message.text?, same]

theorem isStandard_congr {first second : Message} (same : first.texts 1 = second.texts 1) :
    isStandard first = isStandard second := by
  rw [isStandard, isStandard, text_congr same]

/-! ### How embedding a set ends -/

theorem embedMember_ok_iff {file after : Message} :
    (embedMember ids flags file).result = .ok after ↔
      (Text.decode (file.text 1)).isSome ∧
        if isStandard file then after = file
        else ∃ count grown, (embedFile ids flags.joinLines file).result = .ok (count, grown) ∧
          after = if flags.stripSourceInfo then grown.clear 9 else grown := by
  rw [embedMember, isStandard]
  cases Text.decode (file.text 1) with
  | none => simp [Logged.fail]
  | some name =>
    simp only [Option.any_some, Option.isSome_some, true_and]
    by_cases standard : standardDirectory.isPrefixOf name = true
    · rw [if_pos standard, if_pos standard]
      constructor
      · intro returned
        cases returned
        rfl
      · rintro rfl
        rfl
    · rw [if_neg standard, if_neg standard]
      refine (Logged.bind_result_ok_iff _ _ _).trans ?_
      constructor
      · rintro ⟨⟨count, grown⟩, returned, told⟩
        cases told
        exact ⟨count, grown, returned, rfl⟩
      · rintro ⟨count, grown, returned, rfl⟩
        exact ⟨(count, grown), returned, rfl⟩

theorem embedEntries_ok_iff {entries settled : List Entry} :
    (embedEntries ids flags entries).result = .ok settled ↔
      List.Forall₂ (Settles ids flags) entries settled := by
  induction entries generalizing settled with
  | nil =>
    rw [embedEntries, List.forall₂_nil_left_iff]
    constructor
    · intro returned
      cases returned
      rfl
    · rintro rfl
      rfl
  | cons entry rest ih =>
    -- Whatever becomes of the first entry, the others are dealt with after it.
    have others : ∀ changed, ((embedEntries ids flags rest).bind fun others =>
        Logged.pure (changed :: others)).result = .ok settled ↔
          ∃ more, List.Forall₂ (Settles ids flags) rest more ∧ settled = changed :: more := by
      intro changed
      rw [Logged.bind_result_ok_iff]
      constructor
      · rintro ⟨more, run, told⟩
        cases told
        exact ⟨more, ih.mp run, rfl⟩
      · rintro ⟨more, run, rfl⟩
        exact ⟨more, ih.mpr run, rfl⟩
    rw [embedEntries, List.forall₂_cons_left_iff]
    cases held : Message.childOf? 1 entry with
    | none =>
      refine (others entry).trans ?_
      constructor
      · rintro ⟨more, run, rfl⟩
        exact ⟨entry, more, .other held, run, rfl⟩
      · rintro ⟨changed, more, settles, run, rfl⟩
        cases settles with
        | other => exact ⟨more, run, rfl⟩
        | file => cases held
    | some file =>
      rw [Message.eq_of_childOf? held]
      constructor
      · intro returned
        obtain ⟨changed, first, told⟩ := (Logged.bind_result_ok_iff _ _ _).mp returned
        obtain ⟨after, start, rfl⟩ := (Logged.map_result_ok_iff _ _ _).mp first
        obtain ⟨more, run, rfl⟩ := (others _).mp told
        exact ⟨_, more, .file start, run, rfl⟩
      · rintro ⟨changed, more, settles, run, rfl⟩
        cases settles with
        | other apart => cases apart
        | file start =>
          have first := (Logged.map_result_ok_iff (Entry.message 1 ·) _ _).mpr ⟨_, start, rfl⟩
          exact (Logged.bind_result_ok_iff _ _ _).mpr ⟨_, first, (others _).mpr ⟨more, run, rfl⟩⟩

theorem embedSet_ok_iff {data out : Bytes} :
    (embedSet ids flags data).result = .ok out ↔
      ∃ set settled, decode .fileSet data = .ok set ∧
        List.Forall₂ (Settles ids flags) set settled ∧ Message.IsComplete .fileSet settled ∧
          out = Message.encode settled := by
  -- The set is written at the end, which takes that nothing is missing from it.
  have writes : ∀ settled : Message, ((Logged.ofExcept (settled.serialize .fileSet)).mapError
      EmbedError.unwritable).result = .ok out ↔
        settled.IsComplete .fileSet ∧ out = settled.encode := by
    intro settled
    rw [Logged.mapError_result_ok_iff]
    exact Message.serialize_ok_iff
  rw [embedSet]
  refine (Logged.bind_result_ok_iff _ _ _).trans ?_
  constructor
  · rintro ⟨set, start, rest⟩
    obtain ⟨settled, run, told⟩ := (Logged.bind_result_ok_iff _ _ _).mp rest
    have read := (Logged.mapError_result_ok_iff _ _ _).mp start
    exact ⟨set, settled, read, embedEntries_ok_iff.mp run, (writes settled).mp told⟩
  · rintro ⟨set, settled, read, run, told⟩
    have start := (Logged.mapError_result_ok_iff EmbedError.decode
      (Logged.ofExcept (decode .fileSet data)) set).mpr read
    exact ⟨set, start, (Logged.bind_result_ok_iff _ _ _).mpr
      ⟨settled, embedEntries_ok_iff.mpr run, (writes settled).mpr told⟩⟩

/-! ### The form of what comes out -/

theorem canonical_of_fits {levels : Nat} {file : Message}
    (fits : (Entry.message 1 file).Fits (Canonical levels) levels .fileSet) :
    Canonical levels EntityKind.file.descriptorType file := by
  obtain ⟨spec, child, known, ofType, canonical⟩ := fits
  cases known
  cases ofType
  exact canonical

theorem embedMember_canonical (undeclared : ids.AreUndeclared) {levels : Nat}
    {file after : Message} (returned : (embedMember ids flags file).result = .ok after)
    (canonical : Canonical levels EntityKind.file.descriptorType file) :
    Canonical levels EntityKind.file.descriptorType after := by
  obtain ⟨_, told⟩ := embedMember_ok_iff.mp returned
  split at told
  · rw [told]
    exact canonical
  · obtain ⟨count, grown, embedded, rfl⟩ := told
    have form := Gains.run_canonical undeclared (embedFile_gains undeclared embedded) canonical
    split
    · cases levels with
      | zero => exact absurd rfl (form .file)
      | succ levels => exact form.clear 9
    · exact form

/-- A set that is embedded keeps the form in which sets are read. -/
theorem settled_canonical (undeclared : ids.AreUndeclared) {levels : Nat} {set settled : Message}
    (canonical : Canonical (levels + 1) .fileSet set)
    (run : List.Forall₂ (Settles ids flags) set settled) :
    Canonical (levels + 1) .fileSet settled := by
  obtain ⟨sorted, all⟩ := canonical
  -- Every entry stays in its field, so their order is the same.
  have places : set.map Entry.number? = settled.map Entry.number? := by
    clear sorted all
    induction run with
    | nil => rfl
    | cons settles _ ih =>
      rw [List.map_cons, List.map_cons, ih]
      cases settles <;> rfl
  refine ⟨pairwise_of_numbers places sorted, ?_⟩
  clear sorted places
  induction run with
  | nil => exact all
  | @cons entry after rest others settles _ ih =>
    intro found member
    rcases List.mem_cons.mp member with rfl | inside
    · have fits := all entry (by simp)
      cases settles with
      | other => exact fits
      | file returned =>
        exact ⟨_, _, rfl, rfl, embedMember_canonical undeclared returned (canonical_of_fits fits)⟩
    · exact ih (fun other old => all other (by simp [old])) found inside

/-- The bytes of an embedded set are read as that set. -/
theorem decode_encode_settled (undeclared : ids.AreUndeclared) {data : Bytes}
    {set settled again : Message} (read : decode .fileSet data = .ok set)
    (run : List.Forall₂ (Settles ids flags) set settled)
    (reread : decode .fileSet (Message.encode settled) = .ok again) : again = settled :=
  decode_encode (settled_canonical undeclared (canonical_of_decode read) run) reread

/-! ### A small set -/

/-- A file of the standard library with a comment on its only message. -/
def standardFile : Message :=
  [.text 1 [0x67, 0x6F, 0x6F, 0x67, 0x6C, 0x65, 0x2F, 0x61], .message 4 [],
   .message 9 [.message 1 [.packed 1 [4, 0], .text 3 [0x61]]]]

/-- The same file outside of it. -/
def ownFile : Message :=
  [.text 1 [0x62], .message 4 [], .message 9 [.message 1 [.packed 1 [4, 0], .text 3 [0x61]]]]

/-- What becomes of a set of these two. -/
def mixedSet : Message :=
  [.message 1 standardFile,
   .message 1
    [.text 1 [0x62], .message 4 [.message 7 [entryOf standardNumber [0x61]]],
     .message 9 [.message 1 [.packed 1 [4, 0], .text 3 [0x61]]]]]

theorem embedSet_mixed :
    (embedSet (.uniform standardNumber) ⟨true, false⟩
      (Message.encode [.message 1 standardFile, .message 1 ownFile])).result =
        .ok (Message.encode mixedSet) := by
  refine embedSet_ok_iff.mpr ⟨[.message 1 standardFile, .message 1 ownFile], mixedSet, by cbv,
    .cons (.file ?_) (.cons (.file ?_) .nil), by cbv, rfl⟩
  · have standard : isStandard standardFile = true := by cbv
    exact embedMember_ok_iff.mpr ⟨by cbv, by rw [if_pos standard]⟩
  · have plain : isStandard ownFile = false := by cbv
    refine embedMember_ok_iff.mpr ⟨by cbv, ?_⟩
    rw [plain]
    exact ⟨1, _, by cbv, rfl⟩

end SchemaDoc.Description
