import SchemaDoc.Proofs.Wire.Record

/-!
# Readers look no further than what they take

A reader cuts something off the front of the bytes. What it gives does not depend on what follows,
so a record is read again from the bytes that it keeps, wherever these come to stand.
-/
namespace SchemaDoc.Wire

open Text (Bytes)

/-- What a reader takes off the front is the same whatever follows it. -/
def IsLocal {Value : Type} (read : Bytes → Option (Value × Bytes)) : Prop :=
  ∀ bytes value rest, read bytes = some (value, rest) →
    ∃ taken, bytes = taken ++ rest ∧ ∀ more, read (taken ++ more) = some (value, more)

/-! ### Readers made of readers -/

theorem IsLocal.bind {Value Next : Type} {read : Bytes → Option (Value × Bytes)}
    {next : Value → Bytes → Option (Next × Bytes)} (first : IsLocal read)
    (second : ∀ value, IsLocal (next value)) :
    IsLocal fun bytes => (read bytes).bind fun found => next found.1 found.2 := by
  intro bytes last rest found
  obtain ⟨⟨value, middle⟩, one, two⟩ := Option.bind_eq_some_iff.mp found
  obtain ⟨taken, rfl, again⟩ := first bytes value middle one
  obtain ⟨more, rfl, further⟩ := second value middle last rest two
  refine ⟨taken ++ more, by rw [List.append_assoc], fun after => ?_⟩
  simp only [List.append_assoc, again, Option.bind_some, further]

theorem isLocal_give {Value : Type} (given : Option Value) :
    IsLocal fun bytes => given.map fun value => (value, bytes) := by
  intro bytes value rest found
  obtain ⟨same, there, pair⟩ := Option.map_eq_some_iff.mp found
  cases pair
  exact ⟨[], rfl, fun more => by simp [there]⟩

theorem IsLocal.map {Value Next : Type} {read : Bytes → Option (Value × Bytes)}
    (first : IsLocal read) (change : Value → Next) :
    IsLocal fun bytes => (read bytes).map fun found => (change found.1, found.2) := by
  intro bytes last rest found
  obtain ⟨⟨value, middle⟩, one, pair⟩ := Option.map_eq_some_iff.mp found
  cases pair
  obtain ⟨taken, same, again⟩ := first bytes value middle one
  exact ⟨taken, same, fun more => by simp only [again, Option.map_some]⟩

/-! ### The readers of the wire format -/

theorem isLocal_readVarint (limit : Nat) : IsLocal (readVarint limit) := by
  induction limit with
  | zero => intro bytes value rest found; simp [readVarint] at found
  | succ limit ih =>
    intro bytes value rest found
    cases bytes with
    | nil => simp [readVarint] at found
    | cons byte tail =>
      rw [readVarint] at found
      split at found
      next last =>
        cases found
        exact ⟨[byte], rfl, fun more => by simp [readVarint, last]⟩
      next goesOn =>
        obtain ⟨⟨inner, after⟩, one, pair⟩ := Option.map_eq_some_iff.mp found
        cases pair
        obtain ⟨taken, rfl, again⟩ := ih tail inner after one
        exact ⟨byte :: taken, rfl, fun more => by simp [readVarint, goesOn, again]⟩

theorem isLocal_readTag : IsLocal readTag := by
  -- A tag is read from a number, if it means one.
  let tag? (word : Nat) : Option (Nat × WireType) :=
    if word < size32 then (WireType.ofCode? (word % 8)).map fun type => (word / 8, type) else none
  have whole : readTag = fun bytes => (readVarint 5 bytes).bind fun found =>
      (tag? found.1).map fun tag => (tag, found.2) := by
    funext bytes
    rw [readTag]
    cases readVarint 5 bytes with
    | none => rfl
    | some found =>
      simp only [Option.bind_some, tag?]
      split
      · rw [Option.map_map]
        rfl
      · rfl
  rw [whole]
  exact (isLocal_readVarint 5).bind fun word => isLocal_give (tag? word)

theorem isLocal_readSize : IsLocal readSize := by
  let size? (word : Nat) : Option Nat := if word < sizeLimit then some word else none
  have whole : readSize = fun bytes => (readVarint 5 bytes).bind fun found =>
      (size? found.1).map fun size => (size, found.2) := by
    funext bytes
    rw [readSize]
    cases readVarint 5 bytes with
    | none => rfl
    | some found =>
      simp only [Option.bind_some, size?]
      split <;> rfl
  rw [whole]
  exact (isLocal_readVarint 5).bind fun word => isLocal_give (size? word)

theorem isLocal_takeExactly (size : Nat) : IsLocal (takeExactly size) := by
  intro bytes value rest found
  rw [takeExactly] at found
  split at found
  next enough =>
    cases found
    refine ⟨bytes.take size, (List.take_append_drop size bytes).symm, fun more => ?_⟩
    have length : (bytes.take size).length = size := List.length_take_of_le enough
    have again := takeExactly_append (bytes.take size) more
    rw [length] at again
    exact again
  · cases found

theorem isLocal_readValue (type : WireType) : IsLocal (readValue type) := by
  cases type with
  | varint => exact (isLocal_readVarint 10).map fun word => Payload.varint (word % size64)
  | fixed64 => exact (isLocal_takeExactly 8).map Payload.fixed64
  | fixed32 => exact (isLocal_takeExactly 4).map Payload.fixed32
  | delimited =>
    exact isLocal_readSize.bind fun size => (isLocal_takeExactly size).map Payload.delimited
  | startGroup => intro bytes value rest found; cases found
  | endGroup => intro bytes value rest found; cases found

/-- What is done about the innermost open group, by the next tag. -/
theorem skipGroups_cons (depth number : Nat) (outer : List Nat) (bytes : Bytes) :
    skipGroups depth (number :: outer) bytes =
      match readTag bytes with
      | none => none
      | some ((inner, .endGroup), rest) =>
        if inner == number then skipGroups depth outer rest else none
      | some ((inner, .startGroup), rest) =>
        if outer.length + 1 < depth then skipGroups depth (inner :: number :: outer) rest else none
      | some ((_, type), rest) =>
        (readValue type rest).bind fun found => skipGroups depth (number :: outer) found.2 := by
  rw [skipGroups]
  cases readTag bytes with
  | none => rfl
  | some tagged =>
    obtain ⟨⟨inner, type⟩, rest⟩ := tagged
    cases type <;> simp only <;> split <;> simp_all

theorem skipGroups_local {depth : Nat} {groups : List Nat} {bytes rest : Bytes}
    (found : skipGroups depth groups bytes = some rest) :
    ∃ taken, bytes = taken ++ rest ∧
      ∀ more, skipGroups depth groups (taken ++ more) = some more := by
  fun_induction skipGroups depth groups bytes with
  | case1 bytes =>
    cases found
    exact ⟨[], rfl, fun more => by simp [skipGroups]⟩
  | case3 number outer bytes inner after tagged ends ih =>
    obtain ⟨first, rfl, tag⟩ := isLocal_readTag _ _ _ tagged
    obtain ⟨second, rfl, again⟩ := ih found
    refine ⟨first ++ second, by rw [List.append_assoc], fun more => ?_⟩
    rw [List.append_assoc, skipGroups_cons, tag]
    simp only [if_pos ends, again]
  | case5 number outer bytes inner after tagged room ih =>
    obtain ⟨first, rfl, tag⟩ := isLocal_readTag _ _ _ tagged
    obtain ⟨second, rfl, again⟩ := ih found
    refine ⟨first ++ second, by rw [List.append_assoc], fun more => ?_⟩
    rw [List.append_assoc, skipGroups_cons, tag]
    simp only [if_pos room, again]
  | case8 number outer bytes inner type after notEnd notStart tagged value last held ih =>
    obtain ⟨first, rfl, tag⟩ := isLocal_readTag _ _ _ tagged
    obtain ⟨second, rfl, payload⟩ := isLocal_readValue _ _ _ _ held
    obtain ⟨third, rfl, again⟩ := ih found
    refine ⟨first ++ (second ++ third), by simp only [List.append_assoc], fun more => ?_⟩
    rw [List.append_assoc, List.append_assoc, skipGroups_cons, tag]
    cases type <;> simp_all
  | _ => cases found

theorem isLocal_readPayload (depth number : Nat) (type : WireType) :
    IsLocal (readPayload depth number type) := by
  intro bytes value rest found
  rw [readPayload] at found
  split at found
  next group =>
    split at found
    · cases found
    next room =>
      obtain ⟨after, skipped, pair⟩ := Option.map_eq_some_iff.mp found
      cases pair
      obtain ⟨taken, same, again⟩ := skipGroups_local skipped
      exact ⟨taken, same, fun more => by simp [readPayload, group, room, again]⟩
  next plain =>
    obtain ⟨taken, same, again⟩ := isLocal_readValue type _ _ _ found
    exact ⟨taken, same, fun more => by rw [readPayload, if_neg plain, again]⟩

/-- A record is read again from the bytes that it keeps. -/
theorem readRecord_raw {depth : Nat} {bytes rest : Bytes} {record : Record}
    (found : readRecord depth bytes = some (record, rest)) :
    bytes = record.raw ++ rest ∧
      ∀ more, readRecord depth (record.raw ++ more) = some (record, more) := by
  rw [readRecord] at found
  split at found
  · cases found
  next number type after tagged =>
    split at found
    · cases found
    next positive =>
      obtain ⟨⟨payload, last⟩, held, pair⟩ := Option.map_eq_some_iff.mp found
      cases pair
      obtain ⟨first, rfl, tag⟩ := isLocal_readTag _ _ _ tagged
      obtain ⟨second, rfl, again⟩ := isLocal_readPayload _ _ _ _ _ _ held
      have raw : ∀ more : Bytes, (first ++ (second ++ more)).take
          ((first ++ (second ++ more)).length - more.length) = first ++ second := by
        intro more
        have size : (first ++ second ++ more).length = (first ++ second).length + more.length :=
          List.length_append
        rw [← List.append_assoc, size, Nat.add_sub_cancel, List.take_left]
      simp only [raw]
      refine ⟨by rw [List.append_assoc], fun more => ?_⟩
      rw [readRecord, List.append_assoc, tag]
      simp only [if_neg positive, again, Option.map_some, raw]

/-! ### Deeper groups -/

/-- What is passed with so many groups allowed is passed with more of them, too. -/
theorem skipGroups_mono {depth deeper : Nat} {groups : List Nat} {bytes rest : Bytes}
    (found : skipGroups depth groups bytes = some rest) (more : depth ≤ deeper) :
    skipGroups deeper groups bytes = some rest := by
  fun_induction skipGroups depth groups bytes with
  | case1 bytes =>
    rw [skipGroups]
    exact found
  | case3 number outer bytes inner after tagged ends ih =>
    rw [skipGroups_cons, tagged]
    simp only [if_pos ends, ih found]
  | case5 number outer bytes inner after tagged room ih =>
    rw [skipGroups_cons, tagged]
    simp only [if_pos (Nat.lt_of_lt_of_le room more), ih found]
  | case8 number outer bytes inner type after notEnd notStart tagged value last held ih =>
    rw [skipGroups_cons, tagged]
    cases type <;> simp_all
  | _ => cases found

theorem readPayload_mono {depth deeper number : Nat} {type : WireType} {bytes : Bytes}
    {found : Payload × Bytes} (read : readPayload depth number type bytes = some found)
    (more : depth ≤ deeper) : readPayload deeper number type bytes = some found := by
  rw [readPayload] at read ⊢
  split at read
  next group =>
    split at read
    · cases read
    next room =>
      obtain ⟨after, skipped, pair⟩ := Option.map_eq_some_iff.mp read
      rw [if_pos group, if_neg (by omega), skipGroups_mono skipped more]
      exact congrArg some pair
  next plain => rw [if_neg plain, read]

theorem readRecord_mono {depth deeper : Nat} {bytes : Bytes} {found : Record × Bytes}
    (read : readRecord depth bytes = some found) (more : depth ≤ deeper) :
    readRecord deeper bytes = some found := by
  rw [readRecord] at read ⊢
  split at read
  · cases read
  next number type after tagged =>
    split at read
    · cases read
    next positive =>
      obtain ⟨held, inner, pair⟩ := Option.map_eq_some_iff.mp read
      rw [if_neg positive, readPayload_mono inner more, Option.map_some]
      exact congrArg some pair

/-! ### What a payload can be -/

/-- Numbers have 64 bits, and payloads of fixed size have that size. -/
def Payload.IsSound : Payload → Prop
  | .varint value => value < size64
  | .fixed64 content => content.length = 8
  | .fixed32 content => content.length = 4
  | .delimited _ | .group => True

theorem readValue_sound {type : WireType} {bytes rest : Bytes} {payload : Payload}
    (found : readValue type bytes = some (payload, rest)) : payload.IsSound := by
  have length : ∀ {size : Nat} {bytes : Bytes} {taken : Bytes × Bytes},
      takeExactly size bytes = some taken → taken.1.length = size := by
    intro size bytes taken cut
    rw [takeExactly] at cut
    split at cut <;> cases cut
    exact List.length_take_of_le ‹_›
  cases type <;> simp only [readValue, Option.map_eq_some_iff, Option.bind_eq_some_iff,
    Prod.mk.injEq, reduceCtorEq] at found
  case varint =>
    obtain ⟨word, _, rfl, _⟩ := found
    exact Nat.mod_lt _ (by decide)
  case fixed64 =>
    obtain ⟨taken, cut, rfl, _⟩ := found
    exact length cut
  case fixed32 =>
    obtain ⟨taken, cut, rfl, _⟩ := found
    exact length cut
  case delimited =>
    obtain ⟨_, _, _, _, rfl, _⟩ := found
    trivial

theorem readRecord_sound {depth : Nat} {bytes rest : Bytes} {record : Record}
    (found : readRecord depth bytes = some (record, rest)) : record.payload.IsSound := by
  rw [readRecord] at found
  split at found
  · cases found
  · split at found
    · cases found
    · obtain ⟨⟨payload, last⟩, held, pair⟩ := Option.map_eq_some_iff.mp found
      cases pair
      rw [readPayload] at held
      split at held
      · split at held
        · cases held
        · obtain ⟨_, _, pair⟩ := Option.map_eq_some_iff.mp held
          cases pair
          trivial
      · exact readValue_sound held

end SchemaDoc.Wire
