import SchemaDoc.Console.Emoji
import SchemaDoc.Text.Lowercase

/-!
# Console markup

What is shown on the console is written with tags in brackets that set its style. An odd number
of backslashes in front of a tag keeps it as text, which is how text is escaped. Names between
colons stand for emoji.
-/
namespace SchemaDoc.Console

/-- A piece of marked-up text: plain text, or a tag with the number of backslashes in front. -/
inductive Piece where
  | plain (text : List Char)
  | tag (backslashes : Nat) (content : List Char)
  deriving DecidableEq, Repr

/-- Whether a character can start the content of a tag. -/
def isTagStart (char : Char) : Bool :=
  ('a' ≤ char && char ≤ 'z') || char == '#' || char == '/' || char == '@'

/-- Whether a character is a bracket. -/
def isBracket (char : Char) : Bool :=
  char == '[' || char == ']'

/-- The content of the tag that a text starts with, and what follows the tag. -/
def readTag : List Char → Option (List Char × List Char)
  | '[' :: first :: rest =>
    if isTagStart first then
      match rest.dropWhile (!isBracket ·) with
      | ']' :: after => some (first :: rest.takeWhile (!isBracket ·), after)
      | _ => none
    else none
  | _ => none

theorem readTag_length {text content after : List Char}
    (found : readTag text = some (content, after)) : after.length < text.length := by
  unfold readTag at found
  split at found
  · next first rest =>
    split at found
    · split at found
      · next tail same =>
        simp only [Option.some.injEq, Prod.mk.injEq] at found
        have cut := (List.dropWhile_sublist (!isBracket ·) (l := rest)).length_le
        rw [same, List.length_cons] at cut
        rw [← found.2]
        simp only [List.length_cons]
        omega
      · simp at found
    · simp at found
  · simp at found

/-- Put plain text in front of pieces. -/
def pushPlain (text : List Char) : List Piece → List Piece
  | .plain more :: rest => .plain (text ++ more) :: rest
  | rest => .plain text :: rest

/-- The pieces of a text in which so many backslashes were just passed. -/
def piecesAfter (backslashes : Nat) (text : List Char) : List Piece :=
  let passed := List.replicate backslashes '\\'
  match text with
  | [] => if backslashes = 0 then [] else [.plain passed]
  | '\\' :: rest => piecesAfter (backslashes + 1) rest
  | char :: rest =>
    match _found : readTag (char :: rest) with
    | some (content, after) => .tag backslashes content :: piecesAfter 0 after
    | none => pushPlain (passed ++ [char]) (piecesAfter 0 rest)
termination_by text.length
decreasing_by
  · simp
  · exact readTag_length ‹_›
  · simp

/-- The pieces of a text. -/
def pieces (text : List Char) : List Piece :=
  piecesAfter 0 text

/-- A tag as it is written. -/
def writeTag (content : List Char) : List Char :=
  '[' :: content ++ [']']

/-- Escape the tags of a text. A single backslash at the end is doubled. -/
def escape (text : List Char) : List Char :=
  let escaped := (pieces text).flatMap fun piece =>
    match piece with
    | .plain content => content
    | .tag backslashes content =>
      List.replicate (2 * backslashes + 1) '\\' ++ writeTag content
  match escaped.reverse with
  | '\\' :: '\\' :: _ => escaped
  | '\\' :: _ => escaped ++ ['\\']
  | _ => escaped

/-- Drop the backslash in front of every bracket that opens. -/
def unescapeBrackets : List Char → List Char
  | '\\' :: '[' :: rest => '[' :: unescapeBrackets rest
  | char :: rest => char :: unescapeBrackets rest
  | [] => []

/-- Take the words that ask for a text or an emoji form off a name; also gives what asks for the
form. -/
def nameForm (name : List Char) : List Char × List Char :=
  let asText := "-text".toList
  let asEmoji := "-emoji".toList
  if asText.isSuffixOf name then (name.take (name.length - asText.length), ['\uFE0E'])
  else if asEmoji.isSuffixOf name then (name.take (name.length - asEmoji.length), ['\uFE0F'])
  else (name, [])

/-- What stands for a name between colons: its emoji, or the name as it was. -/
def expandName (name : List Char) : List Char :=
  let (plainName, form) := nameForm name
  match emoji? (Text.lower plainName) with
  | some emoji => emoji ++ form
  | none => ':' :: name ++ [':']

/-- Put emoji in the place of their names. A name ends at the next colon and has no blank. -/
def expandNames (text : List Char) : List Char :=
  match text with
  | [] => []
  | ':' :: rest =>
    match _found : rest.dropWhile fun char => char != ':' && !Text.isBlank char with
    | ':' :: after =>
      expandName (rest.takeWhile fun char => char != ':' && !Text.isBlank char) ++
        expandNames after
    | _ => ':' :: expandNames rest
  | char :: rest => char :: expandNames rest
termination_by text.length
decreasing_by
  · have cut := (List.dropWhile_sublist (fun char => char != ':' && !Text.isBlank char)
      (l := rest)).length_le
    rw [_found, List.length_cons] at cut
    simp only [List.length_cons]
    omega
  · simp
  · simp

/-- Plain text as the console takes it in. -/
def readPlain (text : List Char) : List Char :=
  expandNames (unescapeBrackets text)

end SchemaDoc.Console
