import SchemaDoc.Proofs.Description.Members
import SchemaDoc.Proofs.Descriptor.Requirement

/-!
# What embedding leaves alone

`Grows` says what may become of a descriptor, entry by entry and without a word on comments or
locations: texts come in behind all that its options hold, the declarations inside it grow in
turn, and every other entry is the same in the same place. Every single description is such a
growth on top of any other, and with that the whole run is.
-/
namespace SchemaDoc.Description

open Descriptor
open Relation (ReflTransGen)
open Text (Bytes)

/-- The options of a descriptor take texts in, and come into existence only for texts. -/
inductive Takes (ids : Ids) (kind : EntityKind) (before after : Message) : Prop
  | nothing (same : after = before)
  | texts (number : OptionNumber) (texts : List Bytes) (front back : List Entry)
      (options : Option Message) (numbered : ids.forKind kind = some number)
      (filled : texts ≠ []) (readable : ∀ text ∈ texts, (Text.decode text).isSome)
      (only : ∀ entry ∈ front ++ back, entry.number? ≠ some kind.optionsTag)
      (old : before = front ++ options.toList.map (.message kind.optionsTag) ++ back)
      (new : after = front ++
        .message kind.optionsTag (options.getD [] ++ texts.map (entryOf number)) :: back)

mutual

/-- A descriptor grows: first the declarations inside it, then its options. -/
inductive Grows (ids : Ids) : EntityKind → Message → Message → Prop
  | mk {kind : EntityKind} {before middle after : Message} (inside : Within ids kind before middle)
      (own : Takes ids kind middle after) : Grows ids kind before after

/-- Among the entries of a descriptor only the declarations grow. -/
inductive Within (ids : Ids) : EntityKind → List Entry → List Entry → Prop
  | nil {kind : EntityKind} : Within ids kind [] []
  | same {kind : EntityKind} {before after : List Entry} (entry : Entry)
      (others : Within ids kind before after) : Within ids kind (entry :: before) (entry :: after)
  | nested {kind child : EntityKind} {tag : Nat} {inner grown : Message}
      {before after : List Entry} (nested : kind.nested? tag = some child)
      (grows : Grows ids child inner grown) (others : Within ids kind before after) :
      Within ids kind (.message tag inner :: before) (.message tag grown :: after)

end

variable {ids : Ids} {flags : EmbedFlags}

theorem Within.refl (kind : EntityKind) (entries : List Entry) :
    Within ids kind entries entries := by
  induction entries with
  | nil => exact .nil
  | cons entry rest ih => exact .same entry ih

theorem Grows.refl (kind : EntityKind) (descriptor : Message) :
    Grows ids kind descriptor descriptor :=
  .mk (.refl kind descriptor) (.nothing rfl)

/-! ### One more description in the options -/

/-- Options that have taken texts in take in one more. -/
theorem Takes.add {levels : Nat} {kind : EntityKind} {before middle : Message}
    {number : OptionNumber} {text : Bytes} (own : Takes ids kind before middle)
    (canonical : Canonical (levels + 1) kind.descriptorType middle)
    (numbered : ids.forKind kind = some number) (readable : (Text.decode text).isSome) :
    Takes ids kind before (middle.setChild kind.optionsTag
      ((middle.child? kind.optionsTag).getD [] ++ [entryOf number text])) := by
  obtain ⟨spec, known, ofType⟩ := Option.map_eq_some_iff.mp (EntityKind.field?_optionsTag kind)
  have single := EntityKind.single_optionsTag known
  cases own with
  | nothing same =>
    subst same
    obtain ⟨front, back, only, split, placed⟩ := canonical.split_single known ofType single
    exact .texts number [text] front back (middle.child? kind.optionsTag) numbered (by simp)
      (by simpa using readable) only split (placed _)
  | texts number' texts front back options numbered' filled readable' only old new =>
    rw [numbered] at numbered'
    cases numbered'
    subst new
    -- The options stand where they stood.
    have early := canonical.early_single rfl known (by simp [single])
    have apart : ∀ entry ∈ front, entry.number? ≠ some kind.optionsTag :=
      fun entry member => only entry (by simp [member])
    refine .texts number (texts ++ [text]) front back options numbered (by simp) ?_ only old ?_
    · intro other member
      rcases List.mem_append.mp member with earlier | last
      · exact readable' other earlier
      · rw [List.mem_singleton.mp last]
        exact readable
    · rw [Message.child?_at apart, Message.setChild, Message.update_at early rfl]
      simp

/-! ### One more description inside -/

/-- Of two different entries of one list, one stands behind the other. -/
theorem stand_apart {front back ahead behind : List Entry} {first second : Entry}
    (same : front ++ first :: back = ahead ++ second :: behind) (apart : first ≠ second) :
    (∃ between, ahead = front ++ first :: between ∧ back = between ++ second :: behind) ∨
      (∃ between, front = ahead ++ second :: between ∧ behind = between ++ first :: back) := by
  rcases List.append_eq_append_iff.mp same with ⟨between, rfl, rest⟩ | ⟨between, rfl, rest⟩
  · cases between with
    | nil => exact absurd (List.cons.inj rest).1 apart
    | cons entry between =>
      obtain ⟨rfl, rfl⟩ := List.cons.inj rest
      exact Or.inl ⟨between, rfl, rfl⟩
  · cases between with
    | nil => exact absurd (List.cons.inj rest).1.symm apart
    | cons entry between =>
      obtain ⟨rfl, rfl⟩ := List.cons.inj rest
      exact Or.inr ⟨between, rfl, rfl⟩

/-- What the options take in does not depend on the declarations beside them. -/
theorem Takes.replace {kind : EntityKind} {before : Message} {front back : List Entry} {tag : Nat}
    {inner : Message} (own : Takes ids kind before (front ++ .message tag inner :: back))
    (apart : tag ≠ kind.optionsTag) :
    ∃ front' back', before = front' ++ .message tag inner :: back' ∧
      ∀ after, Takes ids kind (front' ++ .message tag after :: back')
        (front ++ .message tag after :: back) := by
  cases own with
  | nothing same => exact ⟨front, back, same.symm, fun _ => .nothing rfl⟩
  | texts number texts ahead behind options numbered filled readable only old new =>
    rcases stand_apart new (fun same => apart (Entry.message.inj same).1) with
      ⟨between, rfl, rfl⟩ | ⟨between, rfl, rfl⟩
    · refine ⟨front, between ++ options.toList.map (.message kind.optionsTag) ++ behind,
        by simp [old], fun after => ?_⟩
      have others : ∀ entry ∈ front ++ .message tag after :: between ++ behind,
          entry.number? ≠ some kind.optionsTag := by
        simpa [or_imp, forall_and, Entry.number?] using only
      exact .texts number texts _ behind options numbered filled readable others (by simp) (by simp)
    · refine ⟨ahead ++ options.toList.map (.message kind.optionsTag) ++ between, back,
        by simp [old], fun after => ?_⟩
      have others : ∀ entry ∈ ahead ++ (between ++ .message tag after :: back),
          entry.number? ≠ some kind.optionsTag := by
        simpa [or_imp, forall_and, Entry.number?] using only
      exact .texts number texts ahead _ options numbered filled readable others (by simp) (by simp)

/-- A declaration that has grown may grow on in its place. -/
theorem Within.replace {kind child : EntityKind} {tag : Nat}
    (nested : kind.nested? tag = some child) {before front back : List Entry} {inner : Message}
    (inside : Within ids kind before (front ++ .message tag inner :: back)) :
    ∃ old, Grows ids child old inner ∧ ∀ after, Grows ids child old after →
      Within ids kind before (front ++ .message tag after :: back) := by
  induction front generalizing before with
  | nil =>
    cases inside with
    | same _ others =>
      exact ⟨inner, .refl child inner, fun after grows => .nested nested grows others⟩
    | @nested _ child' _ old _ _ _ nested' grows others =>
      rw [nested] at nested'
      cases nested'
      exact ⟨old, grows, fun after grows => .nested nested grows others⟩
  | cons entry front ih =>
    cases inside with
    | same _ others =>
      obtain ⟨old, grows, replaced⟩ := ih others
      exact ⟨old, grows, fun after more => .same entry (replaced after more)⟩
    | nested nested' grown others =>
      obtain ⟨old, grows, replaced⟩ := ih others
      exact ⟨old, grows, fun after more => .nested nested' grown (replaced after more)⟩

/-! ### The whole run -/

/-- What has grown grows on by one more description. -/
theorem Grows.gains {levels : Nat} {kind : EntityKind} {before middle after : Message}
    (grows : Grows ids kind before middle)
    (canonical : Canonical levels kind.descriptorType middle)
    (gains : Gains ids kind middle after) : Grows ids kind before after := by
  induction gains generalizing levels before with
  | own entity numbered readable short =>
    obtain ⟨inside, own⟩ := grows
    cases levels with
    | zero => exact absurd rfl (canonical _)
    | succ levels => exact .mk inside (own.add canonical numbered readable)
  | @inside kind child tag inner deeper front back nested _ ih =>
    obtain ⟨inside, own⟩ := grows
    obtain ⟨front', back', rfl, untouched⟩ :=
      own.replace (by simpa using (nested?_apart nested).2.1)
    obtain ⟨old, grows, replaced⟩ := inside.replace nested
    cases levels with
    | zero => exact absurd rfl (canonical kind)
    | succ levels =>
      have fits := (canonical.replace (EntityKind.field?_of_nested? nested)).1
      exact .mk (replaced deeper (ih grows fits)) (untouched deeper)

theorem Grows.of_run (undeclared : ids.AreUndeclared) {levels : Nat} {kind : EntityKind}
    {before after : Message} (canonical : Canonical levels kind.descriptorType before)
    (run : ReflTransGen (Gains ids kind) before after) : Grows ids kind before after := by
  induction run with
  | refl => exact .refl kind before
  | tail steps gains ih => exact ih.gains (Gains.run_canonical undeclared steps canonical) gains

/-! ### The whole set -/

/-- What embedding may do to an entry of a set. -/
inductive Extends (ids : Ids) : Entry → Entry → Prop
  | other {entry : Entry} (apart : Message.childOf? 1 entry = none) : Extends ids entry entry
  | standard {file : Message} (name : isStandard file = true) :
    Extends ids (.message 1 file) (.message 1 file)
  | own {file grown : Message} (name : isStandard file = false)
      (grows : Grows ids .file file grown) : Extends ids (.message 1 file) (.message 1 grown)

/-- An entry of a set without the source information of its file, unless that belongs to the
standard library. -/
def withoutSources (entry : Entry) : Entry :=
  match Message.childOf? 1 entry with
  | some file => if isStandard file then entry else .message 1 (file.clear 9)
  | none => entry

/-- What is kept of a set in the end. -/
def kept (strip : Bool) (set : Message) : Message :=
  if strip then set.map withoutSources else set

/-- `out` writes `set`, read from `data`, after its files have grown. -/
structure Framed (ids : Ids) (join strip : Bool) (data out : Bytes) (set grown : Message) :
    Prop where
  read : decode .fileSet data = .ok set
  /-- The files are the same in the same order, and grow at most. -/
  files : List.Forall₂ (Extends ids) set grown
  written : out = Message.encode (kept strip grown)
  /-- Source information makes no other difference. -/
  either : ∀ other, (embedSet ids ⟨join, other⟩ data).result =
    .ok (Message.encode (kept other grown))
  /-- What is written is not read as any other set. -/
  reread : ∀ other again, decode .fileSet (Message.encode (kept other grown)) = .ok again →
    again = kept other grown

theorem withoutSources_standard {file : Message} (name : isStandard file = true) :
    withoutSources (.message 1 file) = .message 1 file :=
  if_pos name

theorem withoutSources_own {file : Message} (name : isStandard file = false) :
    withoutSources (.message 1 file) = .message 1 (file.clear 9) :=
  if_neg (by simp [name])

/-- What is missing is missing from declarations, not from source information. -/
theorem isComplete_kept (strip : Bool) (set : Message) :
    (kept strip set).IsComplete .fileSet ↔ set.IsComplete .fileSet := by
  cases strip with
  | false => rfl
  | true =>
    have alike : ∀ entry : Entry,
        (withoutSources entry).IsComplete .fileSet ↔ entry.IsComplete .fileSet := by
      intro entry
      rw [withoutSources]
      cases held : Message.childOf? 1 entry with
      | none => rfl
      | some file =>
        have ofFile : MessageType.fileSet.child? 1 = some .file := rfl
        rw [Message.eq_of_childOf? held]
        dsimp only
        split
        · rfl
        · rw [Entry.isComplete_message ofFile, Entry.isComplete_message ofFile,
            Message.isComplete_clear_sources]
    rw [kept, if_pos rfl, Message.isComplete_iff_nested (by decide),
      Message.isComplete_iff_nested (by decide), List.forall_mem_map]
    simp only [alike]

/-- An entry that settles has grown, and would have whatever is to be kept. -/
theorem Settles.extends (undeclared : ids.AreUndeclared) {join strip : Bool} {levels : Nat}
    {entry after : Entry} (settles : Settles ids ⟨join, strip⟩ entry after)
    (fits : entry.Fits (Canonical levels) levels .fileSet) :
    ∃ grown, Extends ids entry grown ∧ Settles ids ⟨join, false⟩ entry grown ∧
      Settles ids ⟨join, true⟩ entry (withoutSources grown) := by
  cases settles with
  | other apart =>
    have whole : withoutSources entry = entry := by rw [withoutSources, apart]
    exact ⟨entry, .other apart, .other apart, whole.symm ▸ .other apart⟩
  | @file file after returned =>
    obtain ⟨named, told⟩ := embedMember_ok_iff.mp returned
    cases standard : isStandard file with
    | true =>
      have settled : ∀ flags, (embedMember ids flags file).result = .ok file := fun flags =>
        embedMember_ok_iff.mpr ⟨named, by rw [if_pos standard]⟩
      refine ⟨.message 1 file, .standard standard, .file (settled _), ?_⟩
      rw [withoutSources_standard standard]
      exact .file (settled _)
    | false =>
      rw [standard] at told
      obtain ⟨count, grown, embedded, _⟩ := told
      have run := embedFile_gains undeclared embedded
      have name : isStandard grown = isStandard file :=
        isStandard_congr (Gains.run_texts run (by decide))
      have settled : ∀ strip, (embedMember ids ⟨join, strip⟩ file).result =
          .ok (if strip then grown.clear 9 else grown) := fun strip =>
        embedMember_ok_iff.mpr ⟨named, by rw [standard]; exact ⟨count, grown, embedded, rfl⟩⟩
      refine ⟨.message 1 grown, .own standard ?_, .file (settled false), ?_⟩
      · exact Grows.of_run undeclared (canonical_of_fits fits) run
      · rw [withoutSources_own (name.trans standard)]
        exact .file (settled true)

theorem settled_extends (undeclared : ids.AreUndeclared) {join strip : Bool} {levels : Nat}
    {set settled : List Entry} (fits : ∀ entry ∈ set, entry.Fits (Canonical levels) levels .fileSet)
    (run : List.Forall₂ (Settles ids ⟨join, strip⟩) set settled) :
    ∃ grown, List.Forall₂ (Extends ids) set grown ∧
      ∀ other, List.Forall₂ (Settles ids ⟨join, other⟩) set (kept other grown) := by
  have both : ∃ grown, List.Forall₂ (fun entry after => Extends ids entry after ∧
      Settles ids ⟨join, false⟩ entry after ∧ Settles ids ⟨join, true⟩ entry (withoutSources after))
        set grown := by
    induction run with
    | nil => exact ⟨[], .nil⟩
    | @cons entry _ rest _ settles _ ih =>
      obtain ⟨first, grows⟩ := settles.extends undeclared (fits entry (by simp))
      obtain ⟨more, others⟩ := ih fun other inside => fits other (by simp [inside])
      exact ⟨first :: more, .cons grows others⟩
  obtain ⟨grown, both⟩ := both
  refine ⟨grown, both.imp fun _ _ grows => grows.1, fun other => ?_⟩
  cases other with
  | false => exact both.imp fun _ _ grows => grows.2.1
  | true =>
    rw [kept, if_pos rfl, List.forall₂_map_right_iff]
    exact both.imp fun _ _ grows => grows.2.2

/-- Whenever a set is embedded, its files are the same in the same order, and nothing has changed
in them but for texts at the end of options, and for source information that was not to be kept.
Files of the standard library have not changed at all. -/
theorem embedSet_frame (undeclared : ids.AreUndeclared) {join strip : Bool} {data out : Bytes}
    (returned : (embedSet ids ⟨join, strip⟩ data).result = .ok out) :
    ∃ set grown, Framed ids join strip data out set grown := by
  obtain ⟨set, settled, read, run, complete, _⟩ := embedSet_ok_iff.mp returned
  obtain ⟨grown, files, keeps⟩ := settled_extends undeclared (canonical_of_decode read).2 run
  have same : settled = kept strip grown := Except.ok.inj
    ((embedEntries_ok_iff.mpr run).symm.trans (embedEntries_ok_iff.mpr (keeps strip)))
  rw [same, isComplete_kept] at complete
  have either : ∀ other, (embedSet ids ⟨join, other⟩ data).result =
      .ok (Message.encode (kept other grown)) := fun other =>
    embedSet_ok_iff.mpr ⟨set, _, read, keeps other, (isComplete_kept other grown).mpr complete, rfl⟩
  have written : out = Message.encode (kept strip grown) :=
    Except.ok.inj (returned.symm.trans (either strip))
  exact ⟨set, grown, read, files, written, either,
    fun other _ reread => decode_encode_settled undeclared read (keeps other) reread⟩

theorem embedSet_frame_mixed :
    (Ids.uniform standardNumber).AreUndeclared ∧
    (embedSet (.uniform standardNumber) ⟨true, false⟩
      (Message.encode [.message 1 standardFile, .message 1 ownFile])).result =
        .ok (Message.encode mixedSet) ∧
    ∃ set grown, Framed (.uniform standardNumber) true false
      (Message.encode [.message 1 standardFile, .message 1 ownFile]) (Message.encode mixedSet)
        set grown :=
  ⟨standardNumber_undeclared, embedSet_mixed,
    embedSet_frame standardNumber_undeclared embedSet_mixed⟩

end SchemaDoc.Description
