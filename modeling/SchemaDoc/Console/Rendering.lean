import SchemaDoc.Console.Literal
import SchemaDoc.Console.Markup
import SchemaDoc.Console.Style
import SchemaDoc.Console.Tab
import SchemaDoc.Text.Word

/-!
# Rendering markup

The console shows no styles, so that tags only disappear. A closing tag must have an open one,
though, and what tags say must make sense: a color has numbers that can be read, and what a tag
for an action passes on is a literal. Some control characters are dropped and tabs are filled up
with spaces.
-/
namespace SchemaDoc.Console

/-- What is wrong with marked-up text. -/
inductive MarkupFault where
  /-- A closing tag that no open tag answers to. -/
  | unopenedTag (content : List Char)
  /-- What a tag passes to its action is no literal. -/
  | noLiteral (parameters : List Char)
  /-- A style with a color whose numbers cannot be read. -/
  | unreadableNumber (style : List Char)
  deriving DecidableEq, Repr

/-- A fault in words. -/
def MarkupFault.message : MarkupFault → String
  | .unopenedTag content => "no open tag for " ++ String.ofList content
  | .noLiteral parameters => "not a literal: " ++ String.ofList parameters
  | .unreadableNumber style => "no number that can be read in " ++ String.ofList style

/-- A tag that is open: the style it goes by, what is behind its equals sign, and where its text
starts. -/
structure OpenTag where
  name : List Char
  parameters : Option (List Char)
  start : Nat

/-- A part of a text that has a style. -/
structure Span where
  style : List Char
  start : Nat
  stop : Nat

/-- A text that is being rendered; the tag opened last is first. -/
structure Rendering where
  text : List Char := []
  opened : List OpenTag := []
  spans : List Span := []

/-- The name of a tag. -/
def tagName (content : List Char) : List Char :=
  content.takeWhile (· != '=')

/-- What is behind the equals sign of a tag. -/
def tagParameters (content : List Char) : Option (List Char) :=
  match content.dropWhile (· != '=') with
  | [] => none
  | _ :: parameters => some parameters

/-- The name that a tag goes by. -/
def styleName (name : List Char) : Except MarkupFault (List Char) :=
  match normalStyle name with
  | .ok style => .ok style
  | .error _ => .error (.unreadableNumber name)

/-- The style that a tag asks for. -/
def OpenTag.style (tag : OpenTag) : List Char :=
  match tag.parameters with
  | some parameters => tag.name ++ ' ' :: parameters
  | none => tag.name

/-- Whether a tag is for an action. -/
def OpenTag.isAction (tag : OpenTag) : Bool :=
  tag.name.head? == some '@'

/-- The values that a tag passes to its action. The action may be named in front of brackets; a
name alone passes nothing. -/
def passedValues (parameters : List Char) : List Char :=
  let text := Text.strip parameters
  match text.dropWhile fun char => char == '.' || Text.isWordChar char with
  | [] => "()".toList
  | '(' :: rest =>
    if rest.getLast? == some ')' && !rest.contains '\n' then '(' :: rest else text
  | _ => text

/-- Whether a character is dropped from all text. -/
def isDropped (char : Char) : Bool :=
  char.toNat == 7 || char.toNat == 8 || (11 ≤ char.toNat && char.toNat ≤ 13)

namespace Rendering

/-- Add text at the end. -/
def append (rendering : Rendering) (text : List Char) : Rendering :=
  { rendering with text := rendering.text ++ text.filter (!isDropped ·) }

/-- Open a tag. -/
def openTag (rendering : Rendering) (content : List Char) : Except MarkupFault Rendering := do
  let tag : OpenTag :=
    { name := ← styleName (tagName content)
      parameters := tagParameters content
      start := rendering.text.length }
  return { rendering with opened := tag :: rendering.opened }

/-- Close an open tag. What is passed to an action is read now. -/
def closeTag (rendering : Rendering) (tag : OpenTag) : Except MarkupFault Rendering :=
  if tag.isAction then
    match tag.parameters with
    | some (char :: rest) =>
      if isLiteral (passedValues (char :: rest)) then .ok rendering
      else .error (.noLiteral (char :: rest))
    | _ => .ok rendering
  else
    let span := { style := tag.style, start := tag.start, stop := rendering.text.length }
    .ok { rendering with spans := span :: rendering.spans }

/-- Follow a closing tag: without a name it closes the tag opened last, else the last one that
goes by the name. -/
def closeNamed (rendering : Rendering) (content : List Char) : Except MarkupFault Rendering := do
  let name := Text.strip ((tagName content).drop 1)
  let closed ←
    if name.isEmpty then pure rendering.opened.head?
    else
      let style ← styleName name
      pure (rendering.opened.find? (·.name == style))
  match closed with
  | some tag =>
    let others := rendering.opened.eraseP fun other =>
      name.isEmpty || other.name == tag.name
    closeTag { rendering with opened := others } tag
  | none => .error (.unopenedTag content)

/-- Follow a tag. -/
def follow (rendering : Rendering) (content : List Char) : Except MarkupFault Rendering :=
  if content.head? == some '/' then rendering.closeNamed content else rendering.openTag content

/-- Add a piece of marked-up text. -/
def addPiece (rendering : Rendering) : Piece → Except MarkupFault Rendering
  | .plain text => .ok (rendering.append (readPlain text))
  | .tag backslashes content =>
    let passed := rendering.append (List.replicate (backslashes / 2) '\\')
    if backslashes % 2 = 1 then .ok (passed.append (readPlain (writeTag content)))
    else passed.follow content

/-- The parts that have a style. Tags left open reach to the end. -/
def allSpans (rendering : Rendering) : List Span :=
  rendering.spans ++ rendering.opened.map fun tag =>
    { style := tag.style, start := tag.start, stop := rendering.text.length }

/-- Whether a part is shown. Cutting a text into lines, or a line at tabs, leaves out the parts
that are empty. -/
def shows (rendering : Rendering) (span : Span) : Bool :=
  let covered := (rendering.text.drop span.start).take (span.stop - span.start)
  if rendering.text.contains '\n' then covered.any (· != '\n')
  else !rendering.text.contains '\t' || !covered.isEmpty

/-- Check the style of a part. Words that are no style at all are passed over. -/
def checkSpan (span : Span) : Except MarkupFault Unit :=
  match Style.ofText span.style with
  | .error .unreadableNumber => .error (.unreadableNumber span.style)
  | .error .unknownWord | .ok _ => .ok ()

end Rendering

/-- Render marked-up text. -/
def render (text : List Char) : Except MarkupFault Rendering :=
  (pieces text).foldlM Rendering.addPiece {}

/-- What the console shows of marked-up text. -/
def show? (text : List Char) : Except MarkupFault (List Char) := do
  let rendering ← render text
  (rendering.allSpans.filter rendering.shows).forM Rendering.checkSpan
  return fillTabs rendering.text

end SchemaDoc.Console
