import SchemaDoc.Text.Blank

/-!
# Laying a comment out as line comments

The words of a comment are packed greedily into lines of at most 100 columns, each behind the
indentation of the declaration and the comment mark. A word that is too long has a line of its
own. The block ends with the indentation, so the declaration after it stays where it was.
-/
namespace SchemaDoc.Comment

/-- The column that a line of a comment stays within. -/
def lineWidth : Nat := 100

/-- What opens a line comment. -/
def mark : List Char := ['/', '/', ' ']

/-- Columns set aside on each line besides the indentation: the mark and one more. -/
def markBudget : Nat := 4

/-- The columns left for text; negative when the indentation leaves no room. -/
def textBudget (indent : List Char) : Int :=
  (lineWidth : Int) - indent.length - markBudget

/-- Fill the open line with words while they fit, then open the next. -/
def pack (budget : Int) (line : List Char) : List (List Char) → List (List Char)
  | [] => [line]
  | word :: rest =>
    if line.isEmpty then pack budget word rest
    else
      let longer := line ++ ' ' :: word
      if (longer.length : Int) > budget then line :: pack budget word rest
      else pack budget longer rest

/-- The texts of the lines that the words fill. -/
def lineTexts (words : List (List Char)) (indent : List Char) : List (List Char) :=
  pack (textBudget indent) [] words

/-- One line of a comment with its end. -/
def renderLine (text : List Char) : List Char :=
  mark ++ text ++ ['\n']

/-- The lines with the indentation between them; the first has its own already. -/
def renderLines (indent : List Char) (texts : List (List Char)) : List Char :=
  (texts.map renderLine).intersperse indent |>.flatten

/-- The block of line comments that says the words, to go right before a declaration. -/
def layoutWords (words : List (List Char)) (indent : List Char) : List Char :=
  renderLines indent (lineTexts words indent) ++ indent

/-- The block of line comments that says a text. -/
def layout (comment indent : List Char) : List Char :=
  layoutWords (Text.words comment) indent

end SchemaDoc.Comment
