import SchemaDoc.Editing.Buffer

/-!
# Widening what is deleted

Removing an option from a schema should leave no blank line, stray comma or empty brackets. The
region of an option statement is widened over the blanks around it, and the region of an option
in brackets over the separators around it, and over the brackets when nothing is left in them.
-/
namespace SchemaDoc.Editing

open Text (Bytes isBlankByte trimEnd)

/-- A stretch of bytes. -/
structure Region where
  start : Int
  length : Int
  deriving DecidableEq, Repr

/-- Where a region ends. -/
def Region.stop (region : Region) : Int :=
  region.start + region.length

/-- Regions are put in order of their starts, then of their lengths. -/
def Region.precedes (first second : Region) : Bool :=
  first.start < second.start || (first.start == second.start && first.length ≤ second.length)

/-- What parts the entries of a list: blanks and commas. -/
def isSeparator (byte : UInt8) : Bool :=
  isBlankByte byte || byte == 0x2C

/-- Spaces and tabs, the blanks that stay on a line. -/
def isInlineBlank (byte : UInt8) : Bool :=
  byte == 0x20 || byte == tab

/-- Whether a line ends where these bytes start. -/
def atLineEnd (bytes : Bytes) : Bool :=
  match bytes with
  | [] => true
  | byte :: _ => byte == 0x0D || byte == newline

/-- Widen the region of a statement over the blanks after it on its line. A statement that fills
its lines takes them whole, with the blank lines after it. -/
def widenStatement (buffer : Bytes) (region : Region) : Region :=
  let stop := region.stop + countWhile isInlineBlank (sliceFrom buffer region.stop)
  let line := lineStart buffer region.start
  let alone := (slice buffer line region.start).all isBlankByte &&
    atLineEnd (slice buffer stop (stop + 1))
  if !alone then { start := region.start, length := stop - region.start }
  else
    let blanks := countWhile isBlankByte (sliceFrom buffer stop)
    let close : Int :=
      match lastNewline? (slice buffer stop (stop + blanks)) with
      | some place => clip buffer.length stop + place + 1
      | none => stop + blanks
    { start := line, length := close - line }

/-- Widen the region of an entry in brackets over the separators before it and the blanks after
it. The first entry takes the separators after it too, and the only entry takes the brackets. -/
def widenEntry (buffer : Bytes) (region : Region) : Region :=
  let head := trimEnd isSeparator (sliceTo buffer region.start)
  let start : Int := head.length
  let stop := region.stop + countWhile isBlankByte (sliceFrom buffer region.stop)
  if head.getLast? != some 0x5B then { start, length := stop - start }
  else
    let close := stop + countWhile isSeparator (sliceFrom buffer stop)
    if slice buffer close (close + 1) != [0x5D] then { start, length := close - start }
    else
      let before : Int := (trimEnd isBlankByte (sliceTo buffer (start - 1))).length
      { start := before, length := close + 1 - before }

/-- Join each region of an ordered list to the one before it while only separators are between. -/
def mergeFrom (buffer : Bytes) (current : Region) : List Region → List Region
  | [] => [current]
  | next :: rest =>
    if (slice buffer current.stop next.start).all isSeparator then
      let length := max current.length (next.stop - current.start)
      mergeFrom buffer { current with length } rest
    else current :: mergeFrom buffer next rest

/-- Join the regions that only separators part. -/
def mergeAdjacent (buffer : Bytes) (regions : List Region) : List Region :=
  match regions.mergeSort Region.precedes with
  | [] => []
  | first :: rest => mergeFrom buffer first rest

end SchemaDoc.Editing
