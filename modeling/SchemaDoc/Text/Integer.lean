import SchemaDoc.Text.Blank
import SchemaDoc.Text.Digit

/-!
# Reading integers

Two grammars are in use. A number given by the environment may use the digits of any script. A
number given as a setting or on the command line is stricter about its digits and laxer about
zeros: it may carry zeros in front and a fraction of zeros behind. Both allow one underscore
between two digits, and both refuse more than 4300 digits.
-/
namespace SchemaDoc.Text

/-- No more digits than this are read. -/
def digitLimit : Nat := 4300

/-- Blanks that may stand around a number: all but the information separators. -/
def isNumberBlank (char : Char) : Bool :=
  isBlank char && !(0x1C ≤ char.toNat && char.toNat < 0x20)

/-- One or more digits, with single underscores allowed between them. -/
def readDigits (value? : Char → Option Nat) : List Char → Option (List Nat)
  | [] => none
  | char :: rest =>
    match value? char with
    | none => none
    | some value =>
      match rest with
      | [] => some [value]
      | '_' :: more => (readDigits value? more).map (value :: ·)
      | next :: more => (readDigits value? (next :: more)).map (value :: ·)

/-- The number that decimal digits write. -/
def ofDigits (digits : List Nat) : Nat :=
  digits.foldl (fun number digit => number * 10 + digit) 0

/-- An optional sign, as a factor, and what follows it. -/
def readSign : List Char → Int × List Char
  | '-' :: rest => (-1, rest)
  | '+' :: rest => (1, rest)
  | text => (1, text)

/-- Read an integer with digits of any script and blanks around it. -/
def readInteger (text : List Char) : Option Int := do
  let (sign, rest) := readSign (trim isNumberBlank text)
  let digits ← readDigits digitValue? rest
  if digits.length ≤ digitLimit then some (sign * ofDigits digits) else none

/-- A plain integer: ASCII digits without a zero in front, and at most a minus sign. -/
def readPlainDigits (text : List Char) : Option (Int × Nat) := do
  let (sign, rest) := match text with
    | '-' :: rest => ((-1 : Int), rest)
    | _ => (1, text)
  match rest with
  | ['0'] => some (0, 1)
  | '0' :: _ => none
  | _ =>
    let digits ← rest.mapM asciiDigitValue?
    if digits.isEmpty then none else some (sign * ofDigits digits, digits.length)

/-- Split a minus sign off, or drop a plus sign; a minus sign behind a plus sign is refused. -/
def splitMinus : List Char → Option (List Char × List Char)
  | '-' :: rest => some (['-'], rest)
  | '+' :: '-' :: _ => none
  | '+' :: rest => some ([], rest)
  | text => some ([], text)

/-- Walk over the zeros and underscores after a first zero, keeping the last character passed. A
minus sign may come after them. -/
def dropZerosAfter (last : Char) : List Char → Option (List Char)
  | [] => some [last]
  | char :: rest =>
    if char == '0' || char == '_' then dropZerosAfter char rest
    else if char.isDigit || char == '-' then some (char :: rest)
    else if char == '.' then some (last :: char :: rest)
    else none

/-- Drop the zeros in front of a number; one stays if there is nothing else. -/
def dropLeadingZeros : List Char → Option (List Char)
  | [] => none
  | '0' :: rest => dropZerosAfter '0' rest
  | char :: rest => if char.isDigit then some (char :: rest) else none

/-- Drop a point with one or more zeros and nothing else behind it. -/
def dropZeroFraction (text : List Char) : List Char :=
  match text.dropWhile (· != '.') with
  | _ :: '0' :: more => if more.all (· == '0') then text.takeWhile (· != '.') else text
  | _ => text

/-- Whether two neighbouring characters are underscores. -/
def hasDoubleUnderscore : List Char → Bool
  | '_' :: '_' :: _ => true
  | _ :: rest => hasDoubleUnderscore rest
  | [] => false

/-- Drop the underscores if each stands alone inside the text. -/
def dropUnderscores (text : List Char) : List Char :=
  if text.head? == some '_' || text.getLast? == some '_' || hasDoubleUnderscore text then text
  else text.filter (· != '_')

/-- What reading a setting's text came to. -/
inductive SettingText where
  | number (value : Int)
  | unreadable
  | tooLong
  deriving DecidableEq, Repr

/-- Whether a text starts with more digits than are read, the first of them not zero. -/
def startsTooLong (text : List Char) : Bool :=
  let digits := (readSign text).2.takeWhile Char.isDigit
  text.head? != some '+' && digits.head? != some '0' && digits.length > digitLimit

/-- Read a setting's text as an integer. -/
def readSetting (text : List Char) : SettingText :=
  if startsTooLong text then .tooLong
  else
    let read := do
      let (minus, unsigned) ← splitMinus (trim isNumberBlank text)
      let short ← dropLeadingZeros unsigned
      let (value, count) ← readPlainDigits (minus ++ dropUnderscores (dropZeroFraction short))
      if count ≤ digitLimit then some value else none
    match read with
    | some value => .number value
    | none => .unreadable

end SchemaDoc.Text
