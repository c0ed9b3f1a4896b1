import SchemaDoc.Text.Blank

/-!
# Text as bytes

UTF-8 is read strictly: the shortest form only, no surrogates, nothing above `U+10FFFF`. A
reader may also want just the blanks that a piece of a line starts with, and these are found
without asking whether the rest is text.
-/
namespace SchemaDoc.Text

/-- Bytes that may or may not be text. -/
abbrev Bytes := List UInt8

/-- The UTF-8 bytes of a text. -/
def encode (text : List Char) : Bytes :=
  text.flatMap String.utf8EncodeChar

/-- Read the continuation bytes still owed. `least` is the smallest code point that may be
written with this many bytes. -/
def continueChar (least : Nat) : Nat → Nat → Bytes → Option (Char × Bytes)
  | 0, code, rest =>
    if least ≤ code ∧ code.isValidChar then some (Char.ofNat code, rest) else none
  | _ + 1, _, [] => none
  | owed + 1, code, byte :: rest =>
    if 0x80 ≤ byte && byte < 0xC0 then
      continueChar least owed (code * 64 + (byte.toNat - 0x80)) rest
    else none

/-- The first character and what follows it, unless the bytes do not start with one. -/
def nextChar : Bytes → Option (Char × Bytes)
  | [] => none
  | first :: rest =>
    if first < 0x80 then some (Char.ofNat first.toNat, rest)
    else if first < 0xC0 then none
    else if first < 0xE0 then continueChar 0x80 1 (first.toNat - 0xC0) rest
    else if first < 0xF0 then continueChar 0x800 2 (first.toNat - 0xE0) rest
    else if first < 0xF8 then continueChar 0x10000 3 (first.toNat - 0xF0) rest
    else none

theorem continueChar_length {least owed code : Nat} {bytes after : Bytes} {char : Char}
    (found : continueChar least owed code bytes = some (char, after)) :
    after.length ≤ bytes.length := by
  induction owed generalizing code bytes with
  | zero =>
    simp only [continueChar] at found
    split at found
    · simp only [Option.some.injEq, Prod.mk.injEq] at found
      simp [found.2]
    · simp at found
  | succ owed ih =>
    cases bytes with
    | nil => simp [continueChar] at found
    | cons byte rest =>
      simp only [continueChar] at found
      split at found
      · exact Nat.le_succ_of_le (ih found)
      · simp at found

theorem nextChar_length {first : UInt8} {rest after : Bytes} {char : Char}
    (found : nextChar (first :: rest) = some (char, after)) :
    after.length < (first :: rest).length := by
  simp only [nextChar] at found
  repeat' split at found
  · simp_all
  · simp at found
  all_goals first
    | exact Nat.lt_succ_of_le (continueChar_length found)
    | simp at found

/-- The text that the bytes write, if they write one. -/
def decode : Bytes → Option (List Char)
  | [] => some []
  | first :: rest =>
    match _found : nextChar (first :: rest) with
    | none => none
    | some (char, after) => (decode after).map (char :: ·)
termination_by bytes => bytes.length
decreasing_by exact nextChar_length ‹_›

/-- The blank characters that the bytes start with, and the bytes after them. -/
def leadingBlanks : Bytes → List Char × Bytes
  | [] => ([], [])
  | first :: rest =>
    match _found : nextChar (first :: rest) with
    | none => ([], first :: rest)
    | some (char, after) =>
      if isBlank char then
        let more := leadingBlanks after
        (char :: more.1, more.2)
      else ([], first :: rest)
termination_by bytes => bytes.length
decreasing_by exact nextChar_length ‹_›

end SchemaDoc.Text
