import SchemaDoc.Text.Printable
import SchemaDoc.Text.Utf8

/-!
# Quoted forms for messages

A message shows a path in quotes with what cannot be seen written as escapes. Bytes that are not
text are shown the same way behind the letter `b`.
-/
namespace SchemaDoc.Text

/-- The lower-case hexadecimal digits of a number, at least `width` of them. -/
def hexDigits (width number : Nat) : List Char :=
  let digits := Nat.toDigits 16 number
  List.replicate (width - digits.length) '0' ++ digits

/-- Apostrophes are the quotes unless the content has one and has no double quote. -/
def quoteMark (hasApostrophe hasDouble : Bool) : Char :=
  if hasApostrophe && !hasDouble then '"' else '\''

/-- The escape that every quoted form writes for a character of ASCII. -/
def escapeAscii (mark char : Char) : List Char :=
  if char == mark || char == '\\' then ['\\', char]
  else if char == '\t' then ['\\', 't']
  else if char == '\n' then ['\\', 'n']
  else if char == '\r' then ['\\', 'r']
  else if char.toNat < 0x20 || char.toNat ≥ 0x7F then '\\' :: 'x' :: hexDigits 2 char.toNat
  else [char]

/-- A character inside quotes. -/
def escapeChar (mark char : Char) : List Char :=
  if char.toNat < 0x80 then escapeAscii mark char
  else if isPrintable char then [char]
  else if char.toNat ≤ 0xFF then '\\' :: 'x' :: hexDigits 2 char.toNat
  else if char.toNat ≤ 0xFFFF then '\\' :: 'u' :: hexDigits 4 char.toNat
  else '\\' :: 'U' :: hexDigits 8 char.toNat

/-- A text in quotes. -/
def quote (text : List Char) : List Char :=
  let mark := quoteMark (text.contains '\'') (text.contains '"')
  mark :: text.flatMap (escapeChar mark) ++ [mark]

/-- Bytes in quotes, each shown as the character with its number. -/
def quoteBytes (bytes : Bytes) : List Char :=
  let mark := quoteMark (bytes.contains 0x27) (bytes.contains 0x22)
  'b' :: mark :: bytes.flatMap (fun byte => escapeAscii mark (Char.ofNat byte.toNat)) ++ [mark]

/-- How stored bytes appear in a message: as the text they write, else quoted. -/
def display (bytes : Bytes) : List Char :=
  (decode bytes).getD (quoteBytes bytes)

end SchemaDoc.Text
