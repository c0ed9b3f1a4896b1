import Mathlib.Algebra.Ring.Nat
import SchemaDoc.Proofs.Text.Utf8
import SchemaDoc.Wire.Record

/-!
# Reading what was written

A number in its shortest form is read back whatever follows it, as long as its groups are within
the limit. So is a delimited record, unless its content is too long for any reader.
-/
namespace SchemaDoc.Wire

open Text (Bytes toNat_ofNat_byte)

theorem byte_lt_iff {number : Nat} (small : number < 256) :
    UInt8.ofNat number < 128 ↔ number < 128 := by
  rw [UInt8.lt_iff_toNat_lt, toNat_ofNat_byte small]
  rfl

theorem readVarint_last {limit number : Nat} (last : number < 128) (rest : Bytes) :
    readVarint (limit + 1) (UInt8.ofNat number :: rest) = some (number, rest) := by
  rw [readVarint, if_pos ((byte_lt_iff (by omega)).mpr last), toNat_ofNat_byte (by omega)]

theorem readVarint_more (limit number : Nat) (rest : Bytes) :
    readVarint (limit + 1) (UInt8.ofNat (number % 128 + 128) :: rest) =
      (readVarint limit rest).map fun more => (number % 128 + 128 * more.1, more.2) := by
  have high : ¬ UInt8.ofNat (number % 128 + 128) < 128 := by
    rw [byte_lt_iff (by omega)]
    omega
  rw [readVarint, if_neg high, toNat_ofNat_byte (by omega), Nat.add_sub_cancel]

/-- A written number is read back if it has no more groups than the limit. -/
theorem readVarint_encodeVarint (limit number : Nat) (rest : Bytes) :
    readVarint (limit + 1) (encodeVarint number ++ rest) =
      if number < 128 ^ (limit + 1) then some (number, rest) else none := by
  -- Along the limit: each byte takes one group off the number and one off the limit.
  induction limit generalizing number with
  | zero =>
    have single : (128 : Nat) ^ (0 + 1) = 128 := by decide
    rw [encodeVarint, single]
    by_cases last : number < 128
    · rw [if_pos last, if_pos last, List.singleton_append, readVarint_last last]
    · rw [if_neg last, if_neg last, List.cons_append, readVarint_more, readVarint,
        Option.map_none]
  | succ limit ih =>
    have room : 1 ≤ 128 ^ (limit + 1) := Nat.pow_pos (by decide)
    rw [encodeVarint]
    split
    next last =>
      rw [List.singleton_append, readVarint_last last, if_pos (by rw [Nat.pow_succ]; omega)]
    next more =>
      rw [List.cons_append, readVarint_more, ih]
      have groups : number / 128 < 128 ^ (limit + 1) ↔ number < 128 ^ (limit + 1 + 1) := by
        rw [Nat.pow_succ _ (limit + 1), Nat.div_lt_iff_lt_mul (by decide)]
      by_cases fits : number / 128 < 128 ^ (limit + 1)
      · rw [if_pos fits, if_pos (groups.mp fits), Option.map_some]
        congr 2
        omega
      · rw [if_neg fits, if_neg (fits ∘ groups.mpr), Option.map_none]

theorem readTag_encodeTag {number : Nat} (bounded : number < 0x20000000) (type : WireType)
    (rest : Bytes) : readTag (encodeTag number type ++ rest) = some ((number, type), rest) := by
  have code : type.code < 8 := by cases type <;> decide
  have word : number * 8 + type.code < size32 := by
    simp only [size32]
    omega
  have groups : number * 8 + type.code < 128 ^ 5 := Nat.lt_trans word (by decide)
  rw [readTag, encodeTag, readVarint_encodeVarint, if_pos groups]
  simp only [if_pos word]
  rw [show (number * 8 + type.code) % 8 = type.code by omega,
    show (number * 8 + type.code) / 8 = number by omega, WireType.ofCode?_code, Option.map_some]

theorem readSize_encodeVarint (size : Nat) (rest : Bytes) :
    readSize (encodeVarint size ++ rest) =
      if size < sizeLimit then some (size, rest) else none := by
  rw [readSize, readVarint_encodeVarint]
  by_cases small : size < sizeLimit
  · have groups : size < 128 ^ 5 := Nat.lt_trans small (by decide)
    simp only [if_pos groups, if_pos small]
  · -- A size above the limit is refused whether or not its groups are few enough to be read.
    by_cases groups : size < 128 ^ 5
    · simp only [if_pos groups, if_neg small]
    · simp only [if_neg groups, if_neg small]

theorem takeExactly_append (content rest : Bytes) :
    takeExactly content.length (content ++ rest) = some (content, rest) := by
  rw [takeExactly, if_pos (by simp), List.take_left, List.drop_left]

/-- A written record is read back unless its content is too long. -/
theorem readRecord_encodeDelimited (depth : Nat) {number : Nat} (positive : 1 ≤ number)
    (bounded : number < 0x20000000) (content rest : Bytes) :
    readRecord depth (encodeDelimited number content ++ rest) =
      if content.length < sizeLimit then some (delimitedRecord number content, rest) else none := by
  have parts : encodeDelimited number content ++ rest =
      encodeTag number .delimited ++ (encodeVarint content.length ++ (content ++ rest)) := by
    simp only [encodeDelimited, List.append_assoc]
  have payload : readPayload depth number .delimited
      (encodeVarint content.length ++ (content ++ rest)) =
        if content.length < sizeLimit then some (.delimited content, rest) else none := by
    rw [readPayload, if_neg (by decide), readValue, readSize_encodeVarint]
    split
    · rw [Option.bind_some, takeExactly_append, Option.map_some]
    · rw [Option.bind_none]
  rw [readRecord, parts, readTag_encodeTag bounded]
  simp only [payload, if_neg (show number ≠ 0 by omega)]
  split
  · rw [Option.map_some, ← parts, delimitedRecord, List.length_append, Nat.add_sub_cancel,
      List.take_left]
  · rw [Option.map_none]

theorem readRecord_nil (depth : Nat) : readRecord depth [] = none := by
  rw [readRecord, readTag, readVarint]

theorem readRecords_of_none {depth : Nat} {bytes : Bytes} (stop : readRecord depth bytes = none) :
    readRecords depth bytes = ([], bytes) := by
  rw [readRecords]
  split
  · rfl
  next found =>
    rw [stop] at found
    cases found

theorem readRecords_of_some {depth : Nat} {bytes rest : Bytes} {record : Record}
    (next : readRecord depth bytes = some (record, rest)) :
    readRecords depth bytes =
      (record :: (readRecords depth rest).1, (readRecords depth rest).2) := by
  rw [readRecords]
  split
  next found =>
    rw [next] at found
    cases found
  next found =>
    rw [next] at found
    cases found
    rfl

theorem readRecords_nil (depth : Nat) : readRecords depth [] = ([], []) :=
  readRecords_of_none (readRecord_nil depth)

/-- A single record is read to the end, or not at all. -/
theorem readRecords_encodeDelimited (depth : Nat) {number : Nat} (positive : 1 ≤ number)
    (bounded : number < 0x20000000) (content : Bytes) :
    readRecords depth (encodeDelimited number content) =
      if content.length < sizeLimit then ([delimitedRecord number content], [])
      else ([], encodeDelimited number content) := by
  have read := readRecord_encodeDelimited depth positive bounded content []
  rw [List.append_nil] at read
  split at read
  next short => rw [if_pos short, readRecords_of_some read, readRecords_nil]
  next long => rw [if_neg long, readRecords_of_none read]

theorem encodeDelimited_ne_nil (number : Nat) (content : Bytes) :
    encodeDelimited number content ≠ [] := by
  intro empty
  have tag : encodeVarint (number * 8 + WireType.delimited.code) = [] := by
    simp only [encodeDelimited, encodeTag, List.append_eq_nil_iff] at empty
    exact empty.1.1
  rw [encodeVarint] at tag
  split at tag <;> cases tag

/-! ### Records in their shortest form -/

/-- A record is read back if its payload is. -/
theorem readRecord_encodeTag (depth : Nat) {number : Nat} (positive : 1 ≤ number)
    (bounded : number < 0x20000000) {type : WireType} {payload : Payload} {body rest : Bytes}
    (read : readPayload depth number type (body ++ rest) = some (payload, rest)) :
    readRecord depth (encodeTag number type ++ body ++ rest) =
      some ({ number, payload, raw := encodeTag number type ++ body }, rest) := by
  have size : (encodeTag number type ++ (body ++ rest)).length - rest.length =
      (encodeTag number type ++ body).length := by
    simp only [List.length_append]
    omega
  rw [readRecord, List.append_assoc, readTag_encodeTag bounded]
  simp only [if_neg (show number ≠ 0 by omega), read, Option.map_some, size]
  rw [← List.append_assoc, List.take_left]

theorem readRecord_varintRecord (depth : Nat) {number value : Nat} (positive : 1 ≤ number)
    (bounded : number < 0x20000000) (small : value < size64) (rest : Bytes) :
    readRecord depth ((varintRecord number value).raw ++ rest) =
      some (varintRecord number value, rest) := by
  have groups : value < 128 ^ (9 + 1) := Nat.lt_trans small (by decide)
  apply readRecord_encodeTag depth positive bounded
  rw [readPayload, if_neg (by decide), readValue, readVarint_encodeVarint, if_pos groups,
    Option.map_some, Nat.mod_eq_of_lt small]

/-- The record that holds eight bytes. -/
def fixed64Record (number : Nat) (content : Bytes) : Record :=
  { number, payload := .fixed64 content, raw := encodeTag number .fixed64 ++ content }

theorem readRecord_fixed64Record (depth : Nat) {number : Nat} (positive : 1 ≤ number)
    (bounded : number < 0x20000000) {content : Bytes} (size : content.length = 8) (rest : Bytes) :
    readRecord depth ((fixed64Record number content).raw ++ rest) =
      some (fixed64Record number content, rest) := by
  apply readRecord_encodeTag depth positive bounded
  have taken := takeExactly_append content rest
  rw [size] at taken
  rw [readPayload, if_neg (by decide), readValue, taken, Option.map_some]

theorem readVarints_flatMap {numbers : List Nat} (small : ∀ number ∈ numbers, number < size64) :
    readVarints (numbers.flatMap encodeVarint) = (numbers, []) := by
  induction numbers with
  | nil => rw [List.flatMap_nil, readVarints, readVarint]
  | cons number rest ih =>
    have groups : number < 128 ^ (9 + 1) := Nat.lt_trans (small number (by simp)) (by decide)
    have read : readVarint 10 (encodeVarint number ++ rest.flatMap encodeVarint) =
        some (number, rest.flatMap encodeVarint) := by
      rw [readVarint_encodeVarint, if_pos groups]
    rw [List.flatMap_cons, readVarints]
    split
    next missing =>
      rw [read] at missing
      cases missing
    next other after found =>
      rw [read] at found
      cases found
      rw [ih fun other member => small other (by simp [member])]

end SchemaDoc.Wire
