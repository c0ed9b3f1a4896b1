import SchemaDoc.Proofs.Description.OptionRetention
import SchemaDoc.Proofs.Descriptor.Requirement

/-!
# Embedding leaves complete what was complete

A description under the number of uninterpreted options is read as one of them, and that may well
miss something. Under any other number it makes nothing incomplete, whether its number is declared
or not. So a complete set stays complete while its files take their comments in, and at the end it
can be written.
-/
namespace SchemaDoc.Description

open Descriptor
open Relation (ReflTransGen)
open Text (Bytes)

/-- No kind has the number of uninterpreted options. -/
def Ids.SpareUninterpreted (ids : Ids) : Prop :=
  ∀ kind number, ids.forKind kind = some number → number.value ≠ uninterpretedTag

variable {ids : Ids} {flags : EmbedFlags} {kind : EntityKind} {before after : Message}

/-- Options take descriptions in beside their uninterpreted options. -/
theorem complete_append {type : MessageType} {options after : Message} {number : OptionNumber}
    {text : Bytes} (ofOptions : type.isOptions = true) (other : number.value ≠ uninterpretedTag)
    (appended : append type options number.value text = { options := after, added := .ok true }) :
    after.IsComplete type :=
  (Message.isComplete_options_congr ofOptions
    ((append_retains appended).same uninterpretedTag fun free => other free.1.symm)).mpr
      (complete_of_append appended)

theorem Stores.complete (spare : ids.SpareUninterpreted) (stores : Stores ids kind before after)
    (complete : before.IsComplete kind.descriptorType) :
    after.IsComplete kind.descriptorType := by
  -- Along the way down to the options that take the description in.
  induction stores with
  | @own kind number text options entity numbered appended =>
    exact complete.setChild kind.descriptorType_ne kind.child?_optionsTag
      (complete_append kind.isOptions_optionsType (spare kind number numbered) appended)
  | @inside kind child tag before after front back nested _ ih =>
    obtain ⟨inner, replaced⟩ := complete.replace (EntityKind.child?_of_nested? nested)
    exact replaced after (ih inner) kind.descriptorType_ne

theorem Stores.run_complete (spare : ids.SpareUninterpreted)
    (run : ReflTransGen (Stores ids kind) before after)
    (complete : before.IsComplete kind.descriptorType) :
    after.IsComplete kind.descriptorType := by
  induction run with
  | refl => exact complete
  | tail _ stores ih => exact stores.complete spare ih

theorem embedMember_complete (spare : ids.SpareUninterpreted) {file after : Message}
    (returned : (embedMember ids flags file).result = .ok after)
    (complete : file.IsComplete .file) : after.IsComplete .file := by
  obtain ⟨_, told⟩ := embedMember_ok_iff.mp returned
  split at told
  · rw [told]
    exact complete
  · obtain ⟨count, grown, embedded, rfl⟩ := told
    have whole : grown.IsComplete .file :=
      Stores.run_complete spare (embedFile_stores embedded) complete
    split
    · exact Message.isComplete_clear_sources.mpr whole
    · exact whole

theorem Settles.complete (spare : ids.SpareUninterpreted) {entry after : Entry}
    (settles : Settles ids flags entry after) (complete : entry.IsComplete .fileSet) :
    after.IsComplete .fileSet := by
  cases settles with
  | other => exact complete
  | file returned =>
    have ofFile : MessageType.fileSet.child? 1 = some .file := rfl
    rw [Entry.isComplete_message ofFile] at complete ⊢
    exact embedMember_complete spare returned complete

/-- A complete set is complete when it is embedded. -/
theorem settled_complete (spare : ids.SpareUninterpreted) {set settled : Message}
    (run : List.Forall₂ (Settles ids flags) set settled) (complete : set.IsComplete .fileSet) :
    settled.IsComplete .fileSet := by
  rw [Message.isComplete_iff_nested (by decide)] at complete ⊢
  induction run with
  | nil => exact complete
  | cons settles _ ih =>
    obtain ⟨first, others⟩ := List.forall_mem_cons.mp complete
    exact List.forall_mem_cons.mpr ⟨settles.complete spare first, ih others⟩

end SchemaDoc.Description
