import SchemaDoc.Proofs.Description.Members
import SchemaDoc.Proofs.Descriptor.Address
import SchemaDoc.Proofs.Descriptor.Formed
import SchemaDoc.Proofs.Descriptor.Retention

/-!
# What becomes of options

A description goes into options as one more record, and under a number that the options declare it
is read as a value of the declared field. That is the one way in which options that were set
before can change: wherever they stand, all others stay as they are, and none is unset.
-/
namespace SchemaDoc.Description

open Descriptor
open Relation (ReflTransGen)
open Text (Bytes)

/-- Options at an address give a field up to descriptions: its number is the one that descriptions
of their owner have, and it holds what is written as a delimited record. -/
def GivenUp (ids : Ids) (kind : EntityKind) (address : Address) (type : MessageType)
    (number : Nat) : Prop :=
  ∃ owner, kind.ownerAt? address = some owner ∧
    (ids.forKind owner).map (·.value) = some number ∧ type.takesDelimited number = true

/-- All options in an entity still have the fields that they had, and as they were, but for those
that were free to change. -/
def KeepsOptions (free : Address → MessageType → Nat → Prop) (kind : EntityKind)
    (before after : Message) : Prop :=
  ∀ address type options, kind.descriptorType.at? address = some type → type.isOptions = true →
    before.at? address = some options →
      ∃ kept, after.at? address = some kept ∧ Retains type (free address type) options kept

variable {ids : Ids} {kind : EntityKind} {free : Address → MessageType → Nat → Prop}
  {before after : Message}

theorem KeepsOptions.refl (message : Message) : KeepsOptions free kind message message :=
  fun _ _ options _ _ found => ⟨options, found, .refl options⟩

theorem KeepsOptions.trans {middle : Message} (first : KeepsOptions free kind before middle)
    (second : KeepsOptions free kind middle after) : KeepsOptions free kind before after := by
  intro address type options typed isOptions found
  obtain ⟨halfway, reached, retains⟩ := first address type options typed isOptions found
  obtain ⟨kept, ended, retains'⟩ := second address type halfway typed isOptions reached
  exact ⟨kept, ended, retains.trans retains'⟩

/-- An entity is no options, so options are reached by a step first. -/
theorem KeepsOptions.of_steps
    (steps : ∀ {number index : Nat} {rest : Address} {type below : MessageType}
      {options inner : Message}, kind.descriptorType.child? number = some below →
        below.at? rest = some type → type.isOptions = true →
          (before.children number)[index]? = some inner → inner.at? rest = some options →
            ∃ kept, after.at? ((number, index) :: rest) = some kept ∧
              Retains type (free ((number, index) :: rest) type) options kept) :
    KeepsOptions free kind before after := by
  intro address type options typed isOptions reached
  match address with
  | [] =>
    cases typed
    rw [kind.isOptions_descriptorType] at isOptions
    cases isOptions
  | (number, index) :: rest =>
    obtain ⟨below, child, ofType⟩ := MessageType.at?_cons.mp typed
    obtain ⟨inner, stands, found⟩ := Message.at?_cons.mp reached
    exact steps child ofType isOptions stands found

/-- Options are kept where nothing is changed. -/
theorem kept_of_same {number index : Nat} {rest : Address} {type : MessageType}
    {options inner : Message} {free : Nat → Prop}
    (same : (after.children number)[index]? = (before.children number)[index]?)
    (stands : (before.children number)[index]? = some inner)
    (found : inner.at? rest = some options) :
    ∃ kept, after.at? ((number, index) :: rest) = some kept ∧ Retains type free options kept :=
  ⟨options, Message.at?_cons.mpr ⟨inner, same.trans stands, found⟩, .refl options⟩

theorem GivenUp.nested {child : EntityKind} {tag : Nat} (nested : kind.nested? tag = some child)
    (index : Nat) {address : Address} {type : MessageType} {number : Nat}
    (given : GivenUp ids child address type number) :
    GivenUp ids kind ((tag, index) :: address) type number := by
  obtain ⟨owner, owned, numbered, takes⟩ := given
  refine ⟨owner, ?_, numbered, takes⟩
  cases address with
  | nil => cases owned
  | cons step rest => rw [EntityKind.ownerAt?_nested nested, owned]

/-! ### One description -/

theorem append_merges {type : MessageType} {options after : Message} {number : OptionNumber}
    {text : Bytes}
    (appended : append type options number.value text = { options := after, added := .ok true }) :
    options.merge type (Wire.encodeDelimited number.value text) = { message := after } := by
  have complete := complete_of_append appended
  rw [append_of_complete complete] at appended
  split at appended
  · cases appended
  · split at appended
    · cases appended
    · generalize options.merge type (Wire.encodeDelimited number.value text) = reading at appended ⊢
      obtain ⟨message, fault⟩ := reading
      cases fault with
      | none =>
        cases appended
        rfl
      | some fault => cases appended

theorem append_retains {type : MessageType} {options after : Message} {number : OptionNumber}
    {text : Bytes}
    (appended : append type options number.value text = { options := after, added := .ok true }) :
    Retains type (fun other => other = number.value ∧ type.takesDelimited number.value) options
      after := by
  have merged := append_merges appended
  have bounded : number.value < 0x20000000 := Nat.lt_succ_of_le number.bounded
  have retains := Retains.merge number.positive bounded (by rw [merged])
  rwa [merged] at retains

theorem Stores.formed (stores : Stores ids kind before after)
    (formed : Formed kind.descriptorType before) : Formed kind.descriptorType after := by
  induction stores with
  | @own kind number text options entity numbered appended =>
    have merged := append_merges appended
    have grown := (formed.child? kind.field?_optionsTag).merge (by rw [merged])
    rw [merged] at grown
    exact formed.setChild kind.field?_optionsTag grown
  | inside front back nested _ ih =>
    obtain ⟨inner, replaced⟩ := formed.replace (EntityKind.field?_of_nested? nested)
    exact replaced _ (ih inner)

/-- An entity that was read has its options once, and they are set where they are. -/
theorem children_optionsTag {entity : Message} (formed : Formed kind.descriptorType entity) :
    entity.children kind.optionsTag = (entity.child? kind.optionsTag).toList ∧
      ∀ options, (entity.setChild kind.optionsTag options).children kind.optionsTag =
        [options] := by
  obtain ⟨spec, known, ofType⟩ := Option.map_eq_some_iff.mp kind.field?_optionsTag
  obtain ⟨least, canonical⟩ := formed
  obtain ⟨front, back, only, split, placed⟩ :=
    (canonical (least + 1) (Nat.le_add_right least 1)).split_single known ofType
      (EntityKind.single_optionsTag known)
  have alone : ∀ middle : List Entry, Message.children kind.optionsTag (front ++ middle ++ back) =
      Message.children kind.optionsTag middle := by
    intro middle
    obtain ⟨ahead, behind⟩ := List.forall_mem_append.mp only
    have nothing := Message.children_eq_nil ahead
    have nothing' := Message.children_eq_nil behind
    rw [Message.children] at nothing nothing' ⊢
    rw [List.filterMap_append, List.filterMap_append, nothing, nothing']
    simp [Message.children]
  constructor
  · conv_lhs => rw [split, alone]
    cases entity.child? kind.optionsTag <;> simp [Message.children, Message.childOf?]
  · intro options
    have here := alone [.message kind.optionsTag options]
    rw [placed]
    simpa [Message.children, Message.childOf?] using here

/-- The options that take a description in keep the others, and no other options are changed. -/
theorem keepsOptions_setChild {entity options : Message} {number : OptionNumber} {text : Bytes}
    (formed : Formed kind.descriptorType entity) (numbered : ids.forKind kind = some number)
    (appended : append kind.optionsType ((entity.child? kind.optionsTag).getD []) number.value
      text = { options, added := .ok true }) :
    KeepsOptions (GivenUp ids kind) kind entity (entity.setChild kind.optionsTag options) := by
  obtain ⟨held, set⟩ := children_optionsTag formed
  refine .of_steps fun {field index rest type below found inner} child typed isOptions stands
    reached => ?_
  by_cases here : field = kind.optionsTag
  · subst here
    rw [kind.child?_optionsTag] at child
    cases child
    cases rest with
    | nil =>
      cases typed
      cases reached
      rw [held] at stands
      cases holds : entity.child? kind.optionsTag with
      | none => simp [holds] at stands
      | some old =>
        obtain ⟨rfl, rfl⟩ : index = 0 ∧ found = old := by
          simpa [holds, List.getElem?_singleton, eq_comm] using stands
        rw [holds, Option.getD_some] at appended
        refine ⟨options, Message.at?_cons.mpr ⟨options, by rw [set]; rfl, rfl⟩,
          (append_retains appended).mono fun other claimed => ?_⟩
        obtain ⟨rfl, takes⟩ := claimed
        exact ⟨kind, by simp [EntityKind.ownerAt?], by simp [numbered], takes⟩
    | cons step rest =>
      -- Inside the options there are no others.
      rw [MessageType.isOptions_below kind.isOptions_optionsType typed] at isOptions
      cases isOptions
  · exact kept_of_same (by rw [Message.children_setChild_ne _ _ here]) stands reached

/-- What a declaration keeps, the descriptor around it keeps. -/
theorem KeepsOptions.nested {child : EntityKind} {tag : Nat} (front back : List Entry)
    (nested : kind.nested? tag = some child)
    (keeps : KeepsOptions (GivenUp ids child) child before after) :
    KeepsOptions (GivenUp ids kind) kind (front ++ .message tag before :: back)
      (front ++ .message tag after :: back) := by
  refine .of_steps fun {field index rest type below found descriptor} ofType typed isOptions
    stands reached => ?_
  by_cases here : field = tag
  · subst here
    rcases Message.children_replace front back field index with stood | ⟨other, stood⟩
    · rw [stood] at stands
      cases stands
      rw [EntityKind.child?_of_nested? nested] at ofType
      cases ofType
      obtain ⟨kept, ended, retains⟩ := keeps rest type found typed isOptions reached
      exact ⟨kept, Message.at?_cons.mpr ⟨after, stood after, ended⟩,
        retains.mono fun number given => given.nested nested index⟩
    · exact kept_of_same (by rw [stood, stood]) stands reached
  · exact kept_of_same (by rw [Message.children_replace_ne front back here after before])
      stands reached

theorem Stores.keepsOptions (stores : Stores ids kind before after)
    (formed : Formed kind.descriptorType before) :
    KeepsOptions (GivenUp ids kind) kind before after := by
  -- Along the way down to the options that take the description in.
  induction stores with
  | own entity numbered appended => exact keepsOptions_setChild formed numbered appended
  | inside front back nested _ ih =>
    obtain ⟨inner, _⟩ := formed.replace (EntityKind.field?_of_nested? nested)
    exact (ih inner).nested front back nested

/-! ### The whole run -/

theorem Stores.run_formed (run : ReflTransGen (Stores ids kind) before after)
    (formed : Formed kind.descriptorType before) : Formed kind.descriptorType after := by
  induction run with
  | refl => exact formed
  | tail _ stores ih => exact stores.formed ih

theorem Stores.run_keepsOptions (run : ReflTransGen (Stores ids kind) before after)
    (formed : Formed kind.descriptorType before) :
    KeepsOptions (GivenUp ids kind) kind before after := by
  induction run with
  | refl => exact .refl before
  | tail steps stores ih => exact ih.trans (stores.keepsOptions (Stores.run_formed steps formed))

/-- The source information of a file holds no options. -/
theorem KeepsOptions.clear_sources (file : Message) :
    KeepsOptions free .file file (file.clear 9) := by
  refine .of_steps fun {field index rest type below found descriptor} ofType typed isOptions
    stands reached => ?_
  by_cases here : field = 9
  · subst here
    cases ofType
    rw [MessageType.isOptions_at?_of_isDetail rfl typed] at isOptions
    cases isOptions
  · exact kept_of_same (by rw [Message.children_clear_ne file here]) stands reached

variable {flags : EmbedFlags}

theorem embedMember_keepsOptions {file after : Message}
    (returned : (embedMember ids flags file).result = .ok after)
    (formed : Formed .file file) :
    KeepsOptions (GivenUp ids .file) .file file after ∧ Formed .file after := by
  obtain ⟨_, told⟩ := embedMember_ok_iff.mp returned
  split at told
  · rw [told]
    exact ⟨.refl file, formed⟩
  · obtain ⟨count, grown, embedded, rfl⟩ := told
    have run := embedFile_stores embedded
    have keeps := Stores.run_keepsOptions run formed
    have form := Stores.run_formed run formed
    split
    · exact ⟨keeps.trans (.clear_sources grown), form.clear 9⟩
    · exact ⟨keeps, form⟩

/-- `out` writes what has become of the set in `data`; in no file are more options than those that
were free to change any other than before. -/
structure OptionsKept (free : Address → MessageType → Nat → Prop) (data out : Bytes)
    (set settled : Message) : Prop where
  read : decode .fileSet data = .ok set
  written : out = settled.encode
  /-- What is written is not read as any other set. -/
  reread : ∀ again, decode .fileSet out = .ok again → again = settled
  files : List.Forall₂ (KeepsOptions free .file) (files set) (files settled)

theorem files_cons (entry : Entry) (rest : List Entry) :
    files (entry :: rest) = (Message.childOf? 1 entry).toList ++ files rest :=
  Message.children_cons 1 entry rest

/-- Behind entries that have been dealt with, the others are dealt with one by one. -/
theorem settled_keepsOptions {set settled : List Entry}
    (run : List.Forall₂ (Settles ids flags) set settled) (front : List Entry)
    (formed : Formed .fileSet (front ++ set)) :
    List.Forall₂ (KeepsOptions (GivenUp ids .file) .file) (files set) (files settled) ∧
      Formed .fileSet (front ++ settled) := by
  induction run generalizing front with
  | nil => exact ⟨.nil, formed⟩
  | @cons entry after rest others settles _ ih =>
    rw [files_cons, files_cons]
    cases settles with
    | other apart =>
      obtain ⟨keeps, form⟩ := ih (front ++ [entry]) (by simpa using formed)
      rw [apart]
      exact ⟨keeps, by simpa using form⟩
    | @file file changed returned =>
      have declared : (MessageType.fileSet.field? 1).map (·.kind) = some (.message .file) := rfl
      obtain ⟨ofFile, replaced⟩ := formed.replace declared
      obtain ⟨keeps, form⟩ := embedMember_keepsOptions returned ofFile
      obtain ⟨more, whole⟩ := ih (front ++ [.message 1 changed])
        (by simpa using replaced changed form)
      exact ⟨.cons keeps more, by simpa using whole⟩

/-- Whenever a set is embedded, all options that were set anywhere in it are still set, and they
are what they were, but for those that read descriptions of their owner as a value of their own.
Of these, repeated ones still have all their elements. -/
theorem embedSet_keepsOptions {data out : Bytes}
    (returned : (embedSet ids flags data).result = .ok out) :
    ∃ set settled, OptionsKept (GivenUp ids .file) data out set settled := by
  obtain ⟨set, settled, read, run, _, rfl⟩ := embedSet_ok_iff.mp returned
  obtain ⟨keeps, formed⟩ := settled_keepsOptions run [] (formed_of_decode read)
  exact ⟨set, settled, read, rfl, fun again reread => formed.decode_encode reread, keeps⟩

/-! ### A number that options declare -/

/-- Only files have a number. -/
def Ids.onlyFile (number : OptionNumber) : Ids where
  forKind kind := if kind = .file then some number else none

/-- A file with options and with a comment on its package. -/
def optionedFile (options : Message) : Message :=
  [.text 1 [0x61], .text 2 [0x70], .message 8 options,
   .message 9 [.message 1 [.packed 1 [2], .text 3 [0x63]]]]

/-- The bytes of a set of that file. -/
def optionedSet (options : Message) : Bytes :=
  Message.encode [.message 1 (optionedFile options)]

/-- The number of a bool that files have among their options, which no description is. -/
def flagNumber : OptionNumber := ⟨10, by decide, by decide⟩

/-- The number of a string that files have among their options. -/
def stringNumber : OptionNumber := ⟨1, by decide, by decide⟩

theorem embedSet_optioned {number : OptionNumber} {options after : Message}
    (read : decode .fileSet (optionedSet options) = .ok [.message 1 (optionedFile options)])
    (embedded : (embedFile (.onlyFile number) false (optionedFile options)).result =
      .ok (1, optionedFile after))
    (complete : Message.IsComplete .fileSet [.message 1 (optionedFile after)]) :
    (embedSet (.onlyFile number) {} (optionedSet options)).result = .ok (optionedSet after) := by
  have plain : isStandard (optionedFile options) = false := by cbv
  have settles : (embedMember (.onlyFile number) {} (optionedFile options)).result =
      .ok (optionedFile after) := by
    refine embedMember_ok_iff.mpr ⟨by cbv, ?_⟩
    rw [plain]
    exact ⟨1, _, embedded, rfl⟩
  exact embedSet_ok_iff.mpr ⟨_, _, read, .cons (.file settles) .nil, complete, rfl⟩

theorem embedSet_keepsOptions_flag :
    (embedSet (.onlyFile flagNumber) {} (optionedSet [.text 1 [0x6A], .scalar 10 1])).result =
      .ok (optionedSet [.text 1 [0x6A], .scalar 10 1, entryOf flagNumber [0x63]]) ∧
    ∃ set settled, OptionsKept (GivenUp (.onlyFile flagNumber) .file)
      (optionedSet [.text 1 [0x6A], .scalar 10 1])
      (optionedSet [.text 1 [0x6A], .scalar 10 1, entryOf flagNumber [0x63]]) set settled := by
  have returned : (embedSet (.onlyFile flagNumber) {}
      (optionedSet [.text 1 [0x6A], .scalar 10 1])).result =
        .ok (optionedSet [.text 1 [0x6A], .scalar 10 1, entryOf flagNumber [0x63]]) :=
    embedSet_optioned (by cbv) (by cbv) (by cbv)
  exact ⟨returned, embedSet_keepsOptions returned⟩

/-- A string under the number of descriptions makes way for the description. -/
theorem option_replaced_by_description :
    (embedSet (.onlyFile stringNumber) {} (optionedSet [.text 1 [0x6A], .scalar 10 1])).result =
      .ok (optionedSet [.text 1 [0x63], .scalar 10 1]) ∧
    ¬∃ set settled, OptionsKept (fun _ _ _ => False) (optionedSet [.text 1 [0x6A], .scalar 10 1])
      (optionedSet [.text 1 [0x63], .scalar 10 1]) set settled := by
  have read : decode .fileSet (optionedSet [.text 1 [0x6A], .scalar 10 1]) =
      .ok [.message 1 (optionedFile [.text 1 [0x6A], .scalar 10 1])] := by
    cbv
  have reread : decode .fileSet (optionedSet [.text 1 [0x63], .scalar 10 1]) =
      .ok [.message 1 (optionedFile [.text 1 [0x63], .scalar 10 1])] := by
    cbv
  refine ⟨embedSet_optioned read (by cbv) (by cbv), ?_⟩
  rintro ⟨set, settled, kept⟩
  obtain rfl := Except.ok.inj (kept.read.symm.trans read)
  obtain rfl := kept.reread _ reread
  obtain ⟨keeps, _⟩ := List.forall₂_cons.mp kept.files
  obtain ⟨options, found, retains⟩ := keeps [(8, 0)] .fileOptions _ rfl rfl rfl
  cases found
  have same := retains.same 1 id
  simp [Message.entries, Entry.isField, Entry.number?] at same

end SchemaDoc.Description
