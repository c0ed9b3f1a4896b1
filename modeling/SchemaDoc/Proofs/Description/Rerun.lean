import SchemaDoc.Proofs.Description.Members
import SchemaDoc.Proofs.Descriptor.Requirement

/-!
# Embedding again

A file that has all the comments which its own locations give it is a fixed point of embedding.
The first run leaves such a file, whichever way it came to have them: the locations are still the
same, or they are gone with the source information. So a second run finds every comment in its
place, adds nothing and writes the same bytes.
-/
namespace SchemaDoc.Description

open Descriptor
open Text (Bytes)

/-- Every comment of a file can be read, and is stored where it belongs already. Nothing is missing
from the file, so that it is known what is stored. -/
structure IsSettled (ids : Ids) (join : Bool) (file : Message) : Prop where
  complete : file.IsComplete .file
  comments : ∀ location ∈ locations file, ∃ content, locationComment join location = .ok content
  declared : ∀ path kind options number, optionsAt file path = some (kind, options) →
    ids.forKind kind = some number → ∀ comment ∈ commentsAt join (locations file) path,
      comment ∈ stored number options
  comment : ∀ number, ids.forKind .file = some number →
    ∃ content, fileComment join (locations file) = .ok content
  own : ∀ number, ids.forKind .file = some number →
    ∀ comment ∈ (fileText join (locations file)).toList,
      comment ∈ stored number (file.child? EntityKind.file.optionsTag)

variable {ids : Ids} {join : Bool} {flags : EmbedFlags}

/-! ### A settled file stays -/

theorem describe_of_mem {kind : EntityKind} {entity : Message} {number : OptionNumber}
    {comment : Bytes} (complete : entity.IsComplete kind.descriptorType)
    (present : comment ∈ stored number (entity.child? kind.optionsTag)) :
    describe kind entity number comment = .ok (false, entity) := by
  rw [← stored_getD] at present
  simp only [describe, append_of_complete complete.options, if_pos present]

theorem mem_commentsAt_iff {locations : List Location} {path : Path} {description : Bytes} :
    description ∈ commentsAt join locations path ↔ ∃ location ∈ locations, location.path = path ∧
      locationComment join location = .ok (some description) := by
  have taken : ∀ location, given (locationComment join location) = some description ↔
      locationComment join location = .ok (some description) := by
    intro location
    cases locationComment join location <;> simp [given]
  simp [commentsAt, taken, and_assoc]

theorem IsSettled.embedLocation {file : Message} (settled : IsSettled ids join file)
    {location : Location} (member : location ∈ locations file) :
    ∃ outcome, outcome ≠ .added ∧
      Description.embedLocation ids join file location = .ok (outcome, file) := by
  obtain ⟨content, holds⟩ := settled.comments location member
  simp only [Description.embedLocation, holds, bind, Except.bind]
  cases content with
  | none => exact ⟨.uncommented, by simp, rfl⟩
  | some comment =>
    cases resolves : resolveDeclaration file location.path with
    | none => exact ⟨.unowned, by simp, rfl⟩
    | some found =>
      obtain ⟨kind, entity⟩ := found
      cases numbered : ids.forKind kind with
      | none => exact ⟨.disabled, by simp, by simp [numbered, pure, Except.pure]⟩
      | some number =>
        have present := settled.declared location.path kind _ number
          (optionsAt_of_resolves resolves) numbered comment
          (mem_commentsAt_iff.mpr ⟨location, member, rfl, holds⟩)
        have whole : entity.IsComplete kind.descriptorType :=
          settled.complete.resolveDeclaration resolves
        exact ⟨.present, by simp, by
          simp [numbered, describe_of_mem whole present, pure, Except.pure]⟩

theorem IsSettled.embedLocations {file : Message} (settled : IsSettled ids join file)
    {rest : List Location} (members : ∀ location ∈ rest, location ∈ locations file) :
    (Description.embedLocations ids join file rest).result = .ok (0, file) := by
  induction rest with
  | nil => rfl
  | cons location rest ih =>
    obtain ⟨outcome, old, step⟩ := settled.embedLocation (members location (by simp))
    have walk := ih fun other inside => members other (by simp [inside])
    exact embedLocations_cons_ok_iff.mpr ⟨outcome, file, 0, step, walk, by rw [if_neg old]⟩

theorem IsSettled.embedFileComment {file : Message} (settled : IsSettled ids join file) :
    Description.embedFileComment ids join file = .ok (0, file) := by
  rw [Description.embedFileComment]
  cases numbered : ids.forKind .file with
  | none => rfl
  | some number =>
    obtain ⟨content, found⟩ := settled.comment number numbered
    have text := fileText_of_fileComment found
    simp only [found, bind, Except.bind]
    cases content with
    | none => rfl
    | some comment =>
      have present := settled.own number numbered comment (by simp [text])
      have known : describe .file file number comment = .ok (false, file) :=
        describe_of_mem settled.complete present
      simp [known, pure, Except.pure]

theorem IsSettled.embedFile {file : Message} (settled : IsSettled ids join file) :
    (Description.embedFile ids join file).result = .ok (0, file) :=
  embedFile_ok_iff.mpr ⟨0, 0, file, settled.embedLocations fun _ member => member,
    settled.embedFileComment, rfl⟩

/-! ### What the first run leaves is settled -/

theorem embedLocations_comments {file final : Message} {locations : List Location} {count : Nat}
    (done : (embedLocations ids join file locations).result = .ok (count, final)) :
    ∀ location ∈ locations, ∃ content, locationComment join location = .ok content := by
  induction locations generalizing file count with
  | nil => simp
  | cons location rest ih =>
    obtain ⟨_, changed, _, step, walk, _⟩ := embedLocations_cons_ok_iff.mp done
    intro other member
    rcases List.mem_cons.mp member with rfl | inside
    · rw [embedLocation] at step
      obtain ⟨content, holds, _⟩ := bind_eq_ok_iff.mp step
      exact ⟨content, holds⟩
    · exact ih walk other inside

/-- The first run has stored every comment, whether it was there before or not. -/
theorem isSettled_of_embedFile (undeclared : ids.AreUndeclared) {file final : Message} {count : Nat}
    (returned : (embedFile ids join file).result = .ok (count, final))
    (complete : final.IsComplete .file) : IsSettled ids join final := by
  have fills := embedFile_fills undeclared returned
  obtain ⟨_, _, described, walk, own, _⟩ := embedFile_ok_iff.mp returned
  have sources := (embedLocations_carries undeclared walk).sources
  refine ⟨complete, ?_, ?_, ?_, ?_⟩
  · rw [fills.sources]
    exact embedLocations_comments walk
  · intro path kind options number found numbered comment member
    rw [fills.sources] at member
    rw [fills.options] at found
    obtain ⟨⟨kind', before⟩, _, grown⟩ := Option.map_eq_some_iff.mp found
    cases grown
    rw [stored_receiveAll numbered, mem_addAllNew]
    exact Or.inr member
  · intro number numbered
    rw [fills.sources, ← sources]
    simp only [embedFileComment, numbered] at own
    obtain ⟨content, looked, _⟩ := bind_eq_ok_iff.mp own
    exact ⟨content, looked⟩
  · intro number numbered comment member
    rw [fills.sources] at member
    rw [fills.own, stored_receiveAll numbered, mem_addAllNew]
    exact Or.inr member

/-- Without source information there are no comments. -/
theorem isSettled_clear {file : Message} (complete : file.IsComplete .file) :
    IsSettled ids join (file.clear 9) := by
  have bare : locations (file.clear 9) = [] := by
    have nothing : (file.clear 9).child? 9 = none := by
      apply Message.child?_eq_none
      intro entry member same
      have kept := (List.mem_filter.mp member).2
      simp [Entry.isField, same] at kept
    rw [locations, nothing]
    rfl
  refine ⟨Message.isComplete_clear_sources.mpr complete, ?_, ?_, ?_, ?_⟩
  · simp [bare]
  · simp [bare, commentsAt]
  · intro _ _
    rw [bare]
    exact ⟨none, rfl⟩
  · simp [bare, fileText, leadingAt]

/-! ### The whole set -/

theorem clear_clear (message : Message) (number : Nat) :
    (message.clear number).clear number = message.clear number := by
  simp [Message.clear, List.filter_filter]

theorem embedMember_again (undeclared : ids.AreUndeclared) {file after : Message}
    (returned : (embedMember ids flags file).result = .ok after)
    (complete : after.IsComplete .file) : (embedMember ids flags after).result = .ok after := by
  obtain ⟨named, told⟩ := embedMember_ok_iff.mp returned
  by_cases standard : isStandard file = true
  · rw [if_pos standard] at told
    rw [told]
    exact told ▸ returned
  · rw [if_neg standard] at told
    obtain ⟨count, grown, embedded, same⟩ := told
    have texts : after.texts 1 = file.texts 1 := by
      have kept := Gains.run_texts (embedFile_gains undeclared embedded)
        (show 1 ≠ EntityKind.file.optionsTag by decide)
      rw [same, ← kept]
      split
      · exact Message.texts_clear_ne grown (by decide)
      · rfl
    have settled : IsSettled ids flags.joinLines after := by
      rw [same] at complete ⊢
      split at complete
      next strip =>
        rw [if_pos strip]
        exact isSettled_clear (Message.isComplete_clear_sources.mp complete)
      next keep =>
        rw [if_neg keep]
        exact isSettled_of_embedFile undeclared embedded complete
    refine embedMember_ok_iff.mpr ⟨by rw [text_congr texts]; exact named, ?_⟩
    rw [isStandard_congr texts, if_neg standard]
    refine ⟨0, after, settled.embedFile, ?_⟩
    by_cases strip : flags.stripSourceInfo = true
    · rw [if_pos strip] at same ⊢
      rw [same, clear_clear]
    · rw [if_neg strip]

/-- What an entry has settled to settles as it is. -/
theorem Settles.again (undeclared : ids.AreUndeclared) {entry after : Entry}
    (settles : Settles ids flags entry after) (complete : after.IsComplete .fileSet) :
    Settles ids flags after after := by
  cases settles with
  | other apart => exact .other apart
  | file returned => exact .file (embedMember_again undeclared returned (complete .file rfl))

/-- Embedding a set that came out of embedding, with the same settings, gives back its bytes, as
long as these can be read at all. They cannot if something in them has grown too long, or if new
options lie deeper than reading goes. -/
theorem embedSet_rerun (undeclared : ids.AreUndeclared) {data out : Bytes}
    (returned : (embedSet ids flags data).result = .ok out)
    (reads : ∃ again, decode .fileSet out = .ok again) :
    (embedSet ids flags out).result = .ok out := by
  obtain ⟨set, settled, read, run, complete, rfl⟩ := embedSet_ok_iff.mp returned
  obtain ⟨again, reread⟩ := reads
  have same := decode_encode_settled undeclared read run reread
  subst same
  refine embedSet_ok_iff.mpr ⟨again, again, reread, ?_, complete, rfl⟩
  -- What the first run has written is complete, so the second knows what is stored in it.
  rw [Message.isComplete_iff_nested (by decide)] at complete
  clear returned read reread
  induction run with
  | nil => exact .nil
  | cons settles _ ih =>
    obtain ⟨first, others⟩ := List.forall_mem_cons.mp complete
    exact .cons (settles.again undeclared first) (ih others)

theorem embedSet_rerun_mixed :
    (Ids.uniform standardNumber).AreUndeclared ∧
    (embedSet (.uniform standardNumber) ⟨true, false⟩
      (Message.encode [.message 1 standardFile, .message 1 ownFile])).result =
        .ok (Message.encode mixedSet) ∧
    (∃ again, decode .fileSet (Message.encode mixedSet) = .ok again) ∧
    (embedSet (.uniform standardNumber) ⟨true, false⟩ (Message.encode mixedSet)).result =
      .ok (Message.encode mixedSet) := by
  have reads : ∃ again, decode .fileSet (Message.encode mixedSet) = .ok again :=
    ⟨mixedSet, by cbv⟩
  exact ⟨standardNumber_undeclared, embedSet_mixed, reads,
    embedSet_rerun standardNumber_undeclared embedSet_mixed reads⟩

end SchemaDoc.Description
