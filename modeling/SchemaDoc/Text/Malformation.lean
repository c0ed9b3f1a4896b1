import SchemaDoc.Text.Utf8

/-!
# Where bytes stop being text

When bytes are not UTF-8, a message names the first stretch that cannot be read: a byte that
starts no character, a character broken off by a byte that does not continue it, or a character
broken off by the end.
-/
namespace SchemaDoc.Text

/-- What is wrong with the first stretch of bytes that cannot be read. -/
inductive Flaw where
  | start
  | continuation
  | ending
  deriving DecidableEq, Repr

/-- The words for a flaw. -/
def Flaw.message : Flaw → String
  | .start => "invalid start byte"
  | .continuation => "invalid continuation byte"
  | .ending => "unexpected end of data"

/-- The first stretch of bytes that cannot be read. -/
structure Malformation where
  position : Nat
  length : Nat
  byte : UInt8
  flaw : Flaw
  deriving DecidableEq, Repr

/-- The flaw at bytes that do not start with a character, and how many bytes it spans. The second
byte of a character may be bounded more tightly than the others. -/
def flawAt (first : UInt8) (rest : Bytes) : Flaw × Nat :=
  let continues (byte : UInt8) : Bool := 0x80 ≤ byte && byte < 0xC0
  let second (byte : UInt8) : Bool :=
    continues byte &&
      (first != 0xE0 || byte ≥ 0xA0) && (first != 0xED || byte < 0xA0) &&
      (first != 0xF0 || byte ≥ 0x90) && (first != 0xF4 || byte < 0x90)
  let owed : Nat :=
    if first < 0xC2 || first > 0xF4 then 0
    else if first < 0xE0 then 1
    else if first < 0xF0 then 2
    else 3
  if owed = 0 then (.start, 1)
  else
    match rest with
    | [] => (.ending, 1)
    | byte :: more =>
      if !second byte then (.continuation, 1)
      else
        let good := ((more.take (owed - 1)).takeWhile continues).length
        if good = more.length then (.ending, 2 + good) else (.continuation, 2 + good)

/-- The first stretch that cannot be read, with positions counted from `offset`. -/
def malformationFrom (offset : Nat) : Bytes → Option Malformation
  | [] => none
  | first :: rest =>
    match _found : nextChar (first :: rest) with
    | some (_, after) => malformationFrom (offset + (first :: rest).length - after.length) after
    | none =>
      let (flaw, length) := flawAt first rest
      some { position := offset, length, byte := first, flaw }
termination_by bytes => bytes.length
decreasing_by exact nextChar_length ‹_›

/-- What is said of a stretch that cannot be read. -/
def Malformation.message (malformation : Malformation) : String :=
  let place :=
    if malformation.length = 1 then
      "byte 0x" ++ String.ofList (hexPair malformation.byte.toNat) ++ " in position " ++
        toString malformation.position
    else
      "bytes in position " ++ toString malformation.position ++ "-" ++
        toString (malformation.position + malformation.length - 1)
  "'utf-8' codec can't decode " ++ place ++ ": " ++ malformation.flaw.message
where
  /-- Two hexadecimal digits. -/
  hexPair (number : Nat) : List Char :=
    let digits := Nat.toDigits 16 number
    List.replicate (2 - digits.length) '0' ++ digits

/-- What is said of bytes that are not text. -/
def undecodableMessage (bytes : Bytes) : String :=
  match malformationFrom 0 bytes with
  | some malformation => malformation.message
  | none => ""

end SchemaDoc.Text
