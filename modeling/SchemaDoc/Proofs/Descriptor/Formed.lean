import SchemaDoc.Proofs.Descriptor.Declarations
import SchemaDoc.Proofs.Descriptor.Rereading

/-!
# The form with levels to spare

What can be read with so many levels is read alike with more of them. So a message that was put
together from pieces that were read on their own has the form once there are levels enough, and
bytes that write it are read as nothing else, if they are read at all.
-/
namespace SchemaDoc.Descriptor

open Text (Bytes)

variable {type : MessageType} {message : Message}

/-! ### More levels -/

/-- A record is stored alike if the nested messages are read alike wherever that goes through. -/
theorem storeRecord_congr {readChild deeper : MessageType → Message → Bytes → Reading}
    {record : Wire.Record}
    (alike : ∀ inner held content, (readChild inner held content).fault = none →
      deeper inner held content = readChild inner held content)
    (whole : (message.storeRecord readChild type record).fault = none) :
    message.storeRecord deeper type record = message.storeRecord readChild type record := by
  cases storing type record with
  | unknown same => rw [same, same]
  | child spec inner content known kind payload =>
    rw [Message.storeRecord_child known kind payload] at whole ⊢
    rw [Message.storeRecord_child known kind payload]
    simp only [Message.storeChild] at whole ⊢
    cases occurs : spec.occurrence with
    | single =>
      simp only [occurs] at whole ⊢
      rw [alike _ _ _ whole]
    | repeated | packed =>
      simp only [occurs] at whole ⊢
      rw [alike _ _ _ whole]
  | text spec content known kind payload =>
    rw [Message.storeRecord_text known kind payload, Message.storeRecord_text known kind payload]
  | fixed64 spec content known kind payload =>
    rw [Message.storeRecord_fixed64 known kind payload,
      Message.storeRecord_fixed64 known kind payload]
  | number spec word value known payload admitted =>
    rw [Message.storeRecord_number known payload admitted,
      Message.storeRecord_number known payload admitted]
  | numbers spec content known scalar several payload cut =>
    have ended : (Wire.readVarints content).2 = [] := by
      by_contra more
      exact cut _ _ more whole
    rw [Message.storeRecord_numbers known scalar several payload ended,
      Message.storeRecord_numbers known scalar several payload ended]

/-- Reading that goes through goes the same way with more levels. -/
theorem mergeWithin_mono {levels deeper : Nat} {bytes : Bytes}
    (whole : (mergeWithin levels type message bytes).fault = none) (more : levels ≤ deeper) :
    mergeWithin deeper type message bytes = mergeWithin levels type message bytes := by
  -- Along the levels, and on each along the records.
  induction levels generalizing type message bytes deeper with
  | zero => cases whole
  | succ levels ih =>
    obtain ⟨deeper, rfl⟩ := Nat.exists_eq_add_of_le' (Nat.le_trans (Nat.le_add_left 1 levels) more)
    have room : levels ≤ deeper := by omega
    induction bytes using Wire.readRecords.induct levels generalizing message with
    | case1 bytes stop =>
      rw [mergeWithin_stop stop] at whole ⊢
      split at whole
      next empty =>
        rw [List.isEmpty_iff.mp empty, mergeWithin_stop (Wire.readRecord_nil deeper)]
      · cases whole
    | case2 bytes record rest next ih' =>
      have stored := fault_of_merges next whole
      have same := storeRecord_congr (fun _ _ _ read => ih read room) stored
      rw [mergeWithin_next next] at whole ⊢
      rw [mergeWithin_next (Wire.readRecord_mono next room), same]
      simp only [stored] at whole ⊢
      exact ih' whole

/-! ### The form -/

/-- A message has the form once there are levels enough for all that lies in it. -/
def Formed (type : MessageType) (message : Message) : Prop :=
  ∃ least, ∀ levels ≥ least, Canonical levels type message

theorem Formed.nil (type : MessageType) : Formed type [] := by
  refine ⟨1, fun levels enough => ?_⟩
  obtain ⟨levels, rfl⟩ := Nat.exists_eq_add_of_le' enough
  exact Canonical.nil

theorem formed_of_decode {bytes : Bytes} (read : decode type bytes = .ok message) :
    Formed type message := by
  refine ⟨levelLimit, fun levels enough => ?_⟩
  simp only [decode, Message.merge] at read
  split at read
  · cases read
  next whole =>
    cases read
    have same := mergeWithin_mono whole enough
    rw [← same] at whole ⊢
    exact mergeWithin_canonical (canonical_nil_of_merges whole) whole

/-- Merging bytes keeps the form, unless they are refused. -/
theorem Formed.merge (formed : Formed type message) {bytes : Bytes}
    (whole : (message.merge type bytes).fault = none) :
    Formed type (message.merge type bytes).message := by
  obtain ⟨least, canonical⟩ := formed
  refine ⟨max least levelLimit, fun levels enough => ?_⟩
  rw [Message.merge] at whole ⊢
  have same := mergeWithin_mono whole (Nat.le_trans (Nat.le_max_right _ _) enough)
  rw [← same] at whole ⊢
  exact mergeWithin_canonical (canonical levels (Nat.le_trans (Nat.le_max_left _ _) enough)) whole

/-- A step from a message to another keeps the form if it does on every level that is not the last
one. -/
theorem Formed.step {after : Message} (formed : Formed type message) (least : Nat)
    (keeps : ∀ levels ≥ least, Canonical (levels + 1) type message →
      Canonical (levels + 1) type after) : Formed type after := by
  obtain ⟨base, canonical⟩ := formed
  refine ⟨max base least + 1, fun levels enough => ?_⟩
  obtain ⟨levels, rfl⟩ := Nat.exists_eq_add_of_le' (Nat.le_trans (Nat.le_add_left 1 _) enough)
  exact keeps levels (by omega) (canonical (levels + 1) (by omega))

theorem Formed.clear (formed : Formed type message) (number : Nat) :
    Formed type (message.clear number) :=
  formed.step 0 fun _ _ canonical => canonical.clear number

theorem Formed.child? (formed : Formed type message) {number : Nat} {inner : MessageType}
    (declared : (type.field? number).map (·.kind) = some (.message inner)) :
    Formed inner ((message.child? number).getD []) := by
  obtain ⟨spec, known, ofType⟩ := Option.map_eq_some_iff.mp declared
  cases found : message.child? number with
  | none => exact .nil inner
  | some held =>
    obtain ⟨least, canonical⟩ := formed
    exact ⟨least, fun levels enough =>
      (canonical (levels + 1) (by omega)).child? known ofType found⟩

theorem Formed.setChild (formed : Formed type message) {number : Nat} {content : Message}
    {below : MessageType} (declared : (type.field? number).map (·.kind) = some (.message below))
    (fits : Formed below content) : Formed type (message.setChild number content) := by
  obtain ⟨spec, known, ofType⟩ := Option.map_eq_some_iff.mp declared
  obtain ⟨least, within⟩ := fits
  refine formed.step least fun levels enough canonical => ?_
  exact canonical.update (fun _ => rfl) fun _ _ =>
    ⟨spec, below, known, ofType, within levels enough⟩

/-- A nested message of the form may be replaced by another of its type. -/
theorem Formed.replace {front back : List Entry} {number : Nat} {inner : Message}
    (formed : Formed type (front ++ .message number inner :: back)) {below : MessageType}
    (declared : (type.field? number).map (·.kind) = some (.message below)) :
    Formed below inner ∧ ∀ after, Formed below after →
      Formed type (front ++ .message number after :: back) := by
  constructor
  · obtain ⟨least, canonical⟩ := formed
    exact ⟨least, fun levels enough => ((canonical (levels + 1) (by omega)).replace declared).1⟩
  · rintro after ⟨least, fits⟩
    exact formed.step least fun levels enough canonical =>
      (canonical.replace declared).2 after (fits levels enough)

/-- Bytes that write a message of the form are read as that message, if they are read at all. -/
theorem Formed.decode_encode (formed : Formed type message) {again : Message}
    (read : decode type message.encode = .ok again) : again = message := by
  obtain ⟨least, canonical⟩ := formed
  simp only [decode, Message.merge] at read
  split at read
  · cases read
  next whole =>
    cases read
    have same := mergeWithin_mono whole (Nat.le_max_right least levelLimit)
    rw [← same] at whole ⊢
    exact mergeWithin_encodeAll [] (canonical _ (Nat.le_max_left _ _)) whole

end SchemaDoc.Descriptor
