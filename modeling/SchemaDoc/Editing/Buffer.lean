import SchemaDoc.Text.Utf8

/-!
# Places in a byte buffer

Offsets into a buffer are integers: a negative one counts from the end, and one that lies outside
is moved to the nearest end. Lines end at newline bytes. A place may also be given as a line and
a display column, where a tab moves to the next multiple of the tab width and every other byte
takes one column.
-/
namespace SchemaDoc.Editing

open Text (Bytes isBlankByte)

/-- The byte that ends a line. -/
def newline : UInt8 := 0x0A

/-- The byte that moves to the next tab stop. -/
def tab : UInt8 := 0x09

/-- The place in a buffer of the given size that an offset means. -/
def clip (size : Nat) (offset : Int) : Nat :=
  if offset < 0 then (offset + size).toNat else min offset.toNat size

theorem clip_le (size : Nat) (offset : Int) : clip size offset ≤ size := by
  unfold clip
  split <;> omega

theorem clip_of_le {size place : Nat} (inside : place ≤ size) : clip size place = place := by
  unfold clip
  split <;> omega

/-- The bytes from one offset up to another. -/
def slice (buffer : Bytes) (start stop : Int) : Bytes :=
  (buffer.take (clip buffer.length stop)).drop (clip buffer.length start)

/-- The bytes from an offset on. -/
def sliceFrom (buffer : Bytes) (start : Int) : Bytes :=
  buffer.drop (clip buffer.length start)

/-- The bytes up to an offset. -/
def sliceTo (buffer : Bytes) (stop : Int) : Bytes :=
  buffer.take (clip buffer.length stop)

/-- How many bytes at the start satisfy a test. -/
def countWhile (test : UInt8 → Bool) (bytes : Bytes) : Nat :=
  (bytes.takeWhile test).length

/-- The place of the last newline. -/
def lastNewline? : Bytes → Option Nat
  | [] => none
  | byte :: rest =>
    match lastNewline? rest with
    | some place => some (place + 1)
    | none => if byte == newline then some 0 else none

/-- Where the line that contains an offset starts. -/
def lineStart (buffer : Bytes) (position : Int) : Nat :=
  match lastNewline? (sliceTo buffer position) with
  | some place => place + 1
  | none => 0

/-- The places right after each newline, counted from `offset`. -/
def startsFrom (offset : Nat) : Bytes → List Nat
  | [] => []
  | byte :: rest =>
    if byte == newline then (offset + 1) :: startsFrom (offset + 1) rest
    else startsFrom (offset + 1) rest

/-- Where the lines of a buffer start. -/
def lineStarts (buffer : Bytes) : List Nat :=
  0 :: startsFrom 0 buffer

/-- A number moved into the interval from zero to a bound. -/
def clampTo (bound : Nat) (number : Int) : Nat :=
  min number.toNat bound

/-- The start of a line among those of all lines; a line number outside of them means the nearest
line. -/
def startAmong (starts : List Nat) (line : Int) : Nat :=
  starts.getD (clampTo (starts.length - 1) line) 0

/-- Where a line starts. -/
def startOfLine (buffer : Bytes) (line : Int) : Nat :=
  startAmong (lineStarts buffer) line

/-- The place that a number of bytes leads to from a start, kept within the buffer. -/
def positionFrom (buffer : Bytes) (start : Nat) (column : Int) : Nat :=
  start + clampTo (buffer.length - start) column

/-- The place of a line and a byte column. -/
def position (buffer : Bytes) (line column : Int) : Nat :=
  positionFrom buffer (startOfLine buffer line) column

/-- The tab width that schema compilers count columns with. -/
def defaultTabWidth : Int := 8

/-- The display column after a byte that stands at one. -/
def advance (tabWidth column : Int) (byte : UInt8) : Int :=
  if byte == tab then (column.fdiv tabWidth + 1) * tabWidth else column + 1

/-- How many bytes of a line to pass until a display column is reached; never past its end. -/
def bytesToColumn (tabWidth target : Int) : Int → Bytes → Nat
  | _, [] => 0
  | column, byte :: rest =>
    if byte != newline && column < target then
      1 + bytesToColumn tabWidth target (advance tabWidth column byte) rest
    else 0

/-- The place that a display column leads to from the start of a line, kept within the line. -/
def displayPositionFrom (buffer : Bytes) (start : Nat) (column tabWidth : Int) : Nat :=
  start + bytesToColumn tabWidth column 0 (buffer.drop start)

/-- As `displayPositionFrom`, but there is no answer if a tab is passed whose width is zero. -/
def displayPositionFrom? (buffer : Bytes) (start : Nat) (column tabWidth : Int) : Option Nat :=
  let place := displayPositionFrom buffer start column tabWidth
  if tabWidth = 0 ∧ tab ∈ (buffer.take place).drop start then none else some place

/-- The place of a line and a display column. -/
def displayPosition (buffer : Bytes) (line column : Int) (tabWidth : Int) : Nat :=
  displayPositionFrom buffer (startOfLine buffer line) column tabWidth

/-- As `displayPosition`, but there is no answer if a tab is passed whose width is zero. -/
def displayPosition? (buffer : Bytes) (line column : Int) (tabWidth : Int) : Option Nat :=
  displayPositionFrom? buffer (startOfLine buffer line) column tabWidth

end SchemaDoc.Editing
