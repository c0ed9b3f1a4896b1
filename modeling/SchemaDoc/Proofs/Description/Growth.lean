import SchemaDoc.Proofs.Description.Storing
import SchemaDoc.Proofs.Descriptor.Canonical

/-!
# Growth by single descriptions

All that embedding does to a file is to store descriptions, one after another, each in the options
of the file or of a declaration inside it. So what a file keeps when one description is stored, it
keeps through the whole run: its name, and the form in which it was read.
-/
namespace SchemaDoc.Description

open Descriptor
open Relation (ReflTransGen)
open Text (Bytes)

/-- A descriptor becomes another as one description is stored, in its own options or in those of a
declaration inside it. -/
inductive Gains (ids : Ids) : EntityKind → Message → Message → Prop
  | own {kind : EntityKind} {number : OptionNumber} {text : Bytes} (entity : Message)
      (numbered : ids.forKind kind = some number) (readable : (Text.decode text).isSome)
      (short : text.length < Wire.sizeLimit) :
      Gains ids kind entity (entity.setChild kind.optionsTag
        ((entity.child? kind.optionsTag).getD [] ++ [entryOf number text]))
  | inside {kind child : EntityKind} {tag : Nat} {before after : Message}
      (front back : List Entry) (nested : kind.nested? tag = some child)
      (gains : Gains ids child before after) :
      Gains ids kind (front ++ .message tag before :: back) (front ++ .message tag after :: back)

variable {ids : Ids}

/-! ### Embedding is growth -/

/-- Under a number that the options do not declare, what is appended stands behind them. -/
theorem Stores.gains (undeclared : ids.AreUndeclared) {kind : EntityKind} {before after : Message}
    (stores : Stores ids kind before after) : Gains ids kind before after := by
  induction stores with
  | @own kind number text options entity numbered appended =>
    rw [append_eq (undeclared kind number numbered) (complete_of_append appended)] at appended
    split at appended
    · cases appended
    · split at appended
      · cases appended
      next readable =>
        split at appended
        next short =>
          cases appended
          exact .own entity numbered (by simpa [Option.isSome_iff_ne_none] using readable) short
        · cases appended
  | inside front back nested _ ih => exact .inside front back nested ih

theorem embedFile_gains (undeclared : ids.AreUndeclared) {join : Bool} {file final : Message}
    {count : Nat} (returned : (embedFile ids join file).result = .ok (count, final)) :
    ReflTransGen (Gains ids .file) file final :=
  ReflTransGen.mono (fun _ _ => Stores.gains undeclared) _ _ (embedFile_stores returned)

/-! ### What growth keeps -/

/-- No options field is the first, and no text lies where a nested message does. -/
theorem Gains.texts {kind : EntityKind} {before after : Message}
    (gains : Gains ids kind before after) {number : Nat} (apart : number ≠ kind.optionsTag) :
    after.texts number = before.texts number := by
  cases gains with
  | own => exact Message.texts_setChild_ne before _ apart
  | inside front back => simp [Message.texts, List.filterMap_cons, Message.textOf?]

/-- A record with a description is kept as it came by a type that does not declare its number. -/
theorem kept_delimitedRecord (depth : Nat) {type : MessageType} {number : OptionNumber}
    (undeclared : type.declares number.value = false) {text : Bytes}
    (short : text.length < Wire.sizeLimit) :
    Kept depth type (Wire.delimitedRecord number.value text) where
  reads := by
    intro rest
    have bounded : number.value < 0x20000000 := Nat.lt_succ_of_le number.bounded
    have read := Wire.readRecord_encodeDelimited depth number.positive bounded text rest
    rw [if_pos short] at read
    exact read
  stays := by
    intro _ _
    have unknown := MessageType.field?_eq_none_iff.mpr undeclared
    simp [Message.storeRecord, Wire.delimitedRecord, unknown]

/-- Options of the form keep it with one more description. -/
theorem Canonical.append_entryOf {levels : Nat} {kind : EntityKind} {options : Message}
    {number : OptionNumber} {text : Bytes} (canonical : Canonical levels kind.optionsType options)
    (undeclared : kind.optionsType.declares number.value = false)
    (short : text.length < Wire.sizeLimit) :
    Canonical levels kind.optionsType (options ++ [entryOf number text]) := by
  cases levels with
  | zero => exact canonical
  | succ levels => exact canonical.append_unknown (kept_delimitedRecord levels undeclared short)

theorem Canonical.no_options (levels : Nat) (kind : EntityKind) :
    Canonical levels kind.optionsType [] := by
  cases levels with
  | zero =>
    intro other
    cases kind <;> cases other <;> decide
  | succ levels => exact Canonical.nil

theorem Gains.canonical (undeclared : ids.AreUndeclared) {levels : Nat} {kind : EntityKind}
    {before after : Message} (gains : Gains ids kind before after)
    (canonical : Canonical levels kind.descriptorType before) :
    Canonical levels kind.descriptorType after := by
  -- Along the way down to the options; there are levels left as long as it leads down.
  induction gains generalizing levels with
  | @own kind number text entity numbered readable short =>
    cases levels with
    | zero => exact absurd rfl (canonical kind)
    | succ levels =>
      obtain ⟨spec, known, ofType⟩ := Option.map_eq_some_iff.mp (EntityKind.field?_optionsTag kind)
      refine canonical.update (fun _ => rfl) fun _ _ => ⟨spec, kind.optionsType, known, ofType, ?_⟩
      apply Canonical.append_entryOf _ (undeclared kind number numbered) short
      cases found : entity.child? kind.optionsTag with
      | none => exact Canonical.no_options levels kind
      | some options => exact canonical.child? known ofType found
  | @inside kind child tag before after front back nested _ ih =>
    cases levels with
    | zero => exact absurd rfl (canonical kind)
    | succ levels =>
      obtain ⟨fits, replaced⟩ := canonical.replace (EntityKind.field?_of_nested? nested)
      exact replaced after (ih fits)

/-- What every single description keeps is kept in the end. -/
theorem Gains.run_canonical (undeclared : ids.AreUndeclared) {levels : Nat} {kind : EntityKind}
    {before after : Message} (run : ReflTransGen (Gains ids kind) before after)
    (canonical : Canonical levels kind.descriptorType before) :
    Canonical levels kind.descriptorType after := by
  induction run with
  | refl => exact canonical
  | tail _ gains ih => exact gains.canonical undeclared ih

theorem Gains.run_texts {kind : EntityKind} {before after : Message}
    (run : ReflTransGen (Gains ids kind) before after) {number : Nat}
    (apart : number ≠ kind.optionsTag) : after.texts number = before.texts number := by
  induction run with
  | refl => rfl
  | tail _ gains ih => rw [gains.texts apart, ih]

end SchemaDoc.Description
