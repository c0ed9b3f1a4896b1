import SchemaDoc.Descriptor.Message

/-!
# Source locations

The source information of a file says, for each piece of the schema, the path of the piece in the
descriptor, the span of text that wrote it, and the comments around it.
-/
namespace SchemaDoc.Descriptor

open Text (Bytes)

/-- The steps from a file to a piece of its descriptor. -/
abbrev Path := List Int

/-- One source location. -/
structure Location where
  path : Path
  span : List Int
  leading : Option Bytes
  trailing : Option Bytes
  deriving DecidableEq, Repr

/-- The location that a message of source information holds. -/
def Location.ofMessage (message : Message) : Location where
  path := message.numbers 1
  span := message.numbers 2
  leading := message.text? 3
  trailing := message.text? 4

/-- The source locations of a file, in order. -/
def locations (file : Message) : List Location :=
  (((file.child? 9).getD []).children 1).map Location.ofMessage

/-- A region of source text: the place of its first character and the place after its last. Lines
and columns count from zero. -/
structure Span where
  startLine : Int
  startColumn : Int
  endLine : Int
  endColumn : Int
  deriving DecidableEq, Repr

/-- Neither line nor column is negative, and the end does not come before the start. -/
def Span.isWellFormed (span : Span) : Bool :=
  0 ≤ span.startLine && 0 ≤ span.startColumn && 0 ≤ span.endLine && 0 ≤ span.endColumn &&
    (span.startLine < span.endLine ||
      (span.startLine == span.endLine && span.startColumn ≤ span.endColumn))

/-- The span that a location's numbers say. A span within one line has three of them. -/
def Span.ofNumbers? (numbers : List Int) : Option Span :=
  let span? : Option Span :=
    match numbers with
    | [line, startColumn, endColumn] => some ⟨line, startColumn, line, endColumn⟩
    | [startLine, startColumn, endLine, endColumn] =>
      some ⟨startLine, startColumn, endLine, endColumn⟩
    | _ => none
  span?.filter Span.isWellFormed

/-- The span of a location, if its numbers say one. -/
def Location.span? (location : Location) : Option Span :=
  Span.ofNumbers? location.span

theorem Span.ofNumbers?_wellFormed {numbers : List Int} {span : Span}
    (found : Span.ofNumbers? numbers = some span) : span.isWellFormed = true := by
  exact (Option.filter_eq_some_iff.mp found).2

end SchemaDoc.Descriptor
