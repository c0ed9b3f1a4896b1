import SchemaDoc.Text.Utf8

/-!
# Variable-length integers

A number is written in groups of seven bits, least significant first, each byte but the last with
its high bit set. Reading accepts groups that add nothing, up to a limit on their number.
-/
namespace SchemaDoc.Wire

open Text (Bytes)

/-- How many numbers 32 bits can write. -/
def size32 : Nat := 0x100000000

/-- How many numbers 64 bits can write. -/
def size64 : Nat := 0x10000000000000000

/-- The shortest form of a number. -/
def encodeVarint (number : Nat) : Bytes :=
  if number < 128 then [UInt8.ofNat number]
  else UInt8.ofNat (number % 128 + 128) :: encodeVarint (number / 128)
termination_by number

/-- Read a number of at most `limit` groups, and what follows it. -/
def readVarint : Nat → Bytes → Option (Nat × Bytes)
  | 0, _ => none
  | _ + 1, [] => none
  | limit + 1, byte :: rest =>
    if byte < 128 then some (byte.toNat, rest)
    else (readVarint limit rest).map fun more => (byte.toNat - 128 + 128 * more.1, more.2)

theorem readVarint_length {limit number : Nat} {bytes rest : Bytes}
    (found : readVarint limit bytes = some (number, rest)) : rest.length < bytes.length := by
  induction limit generalizing bytes number rest with
  | zero => simp [readVarint] at found
  | succ limit ih =>
    cases bytes with
    | nil => simp [readVarint] at found
    | cons byte tail =>
      simp only [readVarint] at found
      split at found
      · simp only [Option.some.injEq, Prod.mk.injEq] at found
        simp [found.2]
      · obtain ⟨⟨more, after⟩, inner, same⟩ := Option.map_eq_some_iff.mp found
        simp only [Prod.mk.injEq] at same
        have shorter := ih inner
        rw [same.2] at shorter
        exact Nat.lt_succ_of_lt shorter

/-- The numbers at the start of the bytes, each of at most ten groups, and what follows the last
of them. -/
def readVarints (bytes : Bytes) : List Nat × Bytes :=
  match _found : readVarint 10 bytes with
  | none => ([], bytes)
  | some (number, rest) =>
    let more := readVarints rest
    (number :: more.1, more.2)
termination_by bytes.length
decreasing_by exact readVarint_length ‹_›

end SchemaDoc.Wire
