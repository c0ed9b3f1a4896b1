import SchemaDoc.Text.Integer

/-!
# Literals

A literal writes a number, a string, one of four constants, or a tuple, set or dictionary of
literals. It has no names and computes nothing, but a real and an imaginary number may be added
to make a complex one. Keys and the elements of sets must not be sets or dictionaries, nor hold
any. Whether a text is a literal is all that is asked here; its value is not made.
-/
namespace SchemaDoc.Console

/-- What is known of a literal that was read. -/
inductive Literal where
  | number (imaginary : Bool)
  /-- A number with a sign in front. -/
  | signed (imaginary : Bool)
  /-- Anything else, and whether it can be a key. -/
  | other (canBeKey : Bool)
  deriving DecidableEq, Repr

/-- Whether a literal can be a key. -/
def Literal.canBeKey : Literal → Bool
  | .number _ | .signed _ => true
  | .other canBeKey => canBeKey

/-- How deep brackets may be nested. -/
def nestingLimit : Nat := 200

/-- Pass blanks, comments and joined lines; inside brackets also line ends. -/
def skipBlanks (inside : Bool) : List Char → List Char
  | [] => []
  | '\\' :: '\n' :: rest => skipBlanks inside rest
  | '#' :: rest => skipBlanks inside (rest.dropWhile (· != '\n'))
  | char :: rest =>
    if char == ' ' || char == '\t' || char == '\x0c' || (inside && char == '\n') then
      skipBlanks inside rest
    else char :: rest
termination_by text => text.length
decreasing_by
  · simp only [List.length_cons]
    omega
  · exact Nat.lt_succ_of_le (List.dropWhile_sublist _).length_le
  · simp

/-- Whether a character may be part of a name. -/
def isNameChar (char : Char) : Bool :=
  char.isAlphanum || char == '_' || char.toNat ≥ 128

/-- A run of digits with single underscores between them, and what follows. -/
def digitRun (isDigit : Char → Bool) : List Char → Option (List Char × List Char)
  | [] => none
  | char :: rest =>
    if !isDigit char then none
    else
      match rest with
      | [] => some ([char], [])
      | '_' :: more => (digitRun isDigit more).map fun found => (char :: found.1, found.2)
      | next :: more =>
        if isDigit next then
          (digitRun isDigit (next :: more)).map fun found => (char :: found.1, found.2)
        else some ([char], next :: more)

/-- Whether a character is a hexadecimal digit. -/
def isHexDigit (char : Char) : Bool :=
  char.isDigit || ('a' ≤ char.toLower && char.toLower ≤ 'f')

/-- The digits behind a zero with the letter of a base. -/
def baseDigit? (letter : Char) : Option (Char → Bool) :=
  match letter.toLower with
  | 'x' => some isHexDigit
  | 'o' => some fun char => '0' ≤ char && char ≤ '7'
  | 'b' => some fun char => char == '0' || char == '1'
  | _ => none

/-- The rest of a text behind a decimal point and its digits, and whether there was a point. -/
def readFraction (text : List Char) : Option (Bool × List Char) :=
  match text with
  | '.' :: rest =>
    if rest.head?.any Char.isDigit then
      (digitRun Char.isDigit rest).map fun found => (true, found.2)
    else some (true, rest)
  | _ => some (false, text)

/-- The rest of a text behind an exponent, and whether there was one. -/
def readExponent (text : List Char) : Option (Bool × List Char) :=
  match text with
  | letter :: rest =>
    if letter.toLower = 'e' then
      let digits := if rest.head? == some '+' || rest.head? == some '-' then rest.drop 1 else rest
      (digitRun Char.isDigit digits).map fun found => (true, found.2)
    else some (false, text)
  | [] => some (false, text)

/-- Whether digits without point and exponent may stand alone: a zero in front is refused unless
all are zeros. -/
def isPlainInteger (digits : List Char) : Bool :=
  if digits.head? == some '0' then digits.all (· == '0') else digits.length ≤ Text.digitLimit

/-- Read a decimal number. -/
def readDecimal (text : List Char) : Option (Literal × List Char) := do
  let (whole, rest) ←
    if text.head? == some '.' && (text.drop 1).head?.any Char.isDigit then some ([], text)
    else digitRun Char.isDigit text
  let (hasPoint, rest) ← readFraction rest
  let (hasExponent, rest) ← readExponent rest
  let imaginary := rest.head?.any fun char => char.toLower == 'j'
  if hasPoint || hasExponent || imaginary || isPlainInteger whole then
    some (.number imaginary, if imaginary then rest.drop 1 else rest)
  else none

/-- Read a number. No name may follow it at once. -/
def readNumber (text : List Char) : Option (Literal × List Char) := do
  let found ←
    match text with
    | '0' :: letter :: rest =>
      match baseDigit? letter with
      | some isDigit =>
        let digits := if rest.head? == some '_' then rest.drop 1 else rest
        (digitRun isDigit digits).map fun found => (Literal.number false, found.2)
      | none => readDecimal text
    | _ => readDecimal text
  if found.2.head?.any isNameChar then none else some found

/-- How a string is written: in bytes or characters, and with or without escapes. -/
structure StringKind where
  bytes : Bool
  raw : Bool

/-- The kind of string that letters in front of a quote ask for. -/
def StringKind.ofLetters? (letters : List Char) : Option StringKind :=
  match String.ofList (letters.map Char.toLower) with
  | "" | "u" => some { bytes := false, raw := false }
  | "r" => some { bytes := false, raw := true }
  | "b" => some { bytes := true, raw := false }
  | "br" | "rb" => some { bytes := true, raw := true }
  | _ => none

/-- The number that hexadecimal digits write. -/
def hexValue (digits : List Char) : Nat :=
  digits.foldl
    (fun number digit =>
      16 * number + if digit.isDigit then digit.toNat - 48 else digit.toLower.toNat - 87)
    0

/-- How many characters behind an escaped letter belong to the escape, if it is a good one. -/
def escapeSize? (kind : StringKind) (letter : Char) (rest : List Char) : Option Nat :=
  let hexSize (count : Nat) : Option Nat :=
    let digits := rest.take count
    if digits.length = count && digits.all isHexDigit && hexValue digits ≤ 0x10FFFF then some count
    else none
  match letter, kind.bytes with
  | 'x', _ => hexSize 2
  | 'u', false => hexSize 4
  | 'U', false => hexSize 8
  | 'N', false =>
    match rest with
    | '\x7b' :: name =>
      let size := (name.takeWhile fun char => char.isAlphanum || char == ' ' || char == '-').length
      if size > 0 && (name.drop size).head? == some '\x7d' then some (size + 2) else none
    | _ => none
  | _, _ => some 0

/-- What follows the quotes that close a string; there are three of them or one. -/
def closeString (kind : StringKind) (quote : Char) (long : Bool) (text : List Char) :
    Option (List Char) :=
  match text with
  | [] => none
  | '\\' :: letter :: rest =>
    if kind.bytes && letter.toNat ≥ 128 then none
    else if kind.raw then closeString kind quote long rest
    else
      match escapeSize? kind letter rest with
      | none => none
      | some size => closeString kind quote long (rest.drop size)
  | char :: rest =>
    if char == quote then
      if !long then some rest
      else if rest.take 2 == [quote, quote] then some (rest.drop 2)
      else closeString kind quote long rest
    else if (char == '\n' && !long) || (kind.bytes && char.toNat ≥ 128) then none
    else closeString kind quote long rest
termination_by text.length
decreasing_by all_goals simp only [List.length_cons, List.length_drop]; omega

/-- Read one string, if one starts here; says whether it is of bytes. -/
def readString (text : List Char) : Option (Bool × List Char) := do
  let letters := text.takeWhile Char.isAlpha
  match text.drop letters.length with
  | [] => none
  | quote :: rest =>
    if quote != '"' && quote != '\'' then none
    else
      let kind ← StringKind.ofLetters? letters
      let long := rest.take 2 == [quote, quote]
      let after ← closeString kind quote long (if long then rest.drop 2 else rest)
      return (kind.bytes, after)

/-- Whether a string starts here: a quote, or letters and a quote. -/
def startsString (text : List Char) : Bool :=
  match text.dropWhile Char.isAlpha with
  | quote :: _ => quote == '"' || quote == '\''
  | [] => false

/-- Read the strings that stand side by side, which make one; all are of bytes or none is. -/
def readStrings (inside : Bool) : Nat → Option Bool → List Char → Option (List Char)
  | 0, _, _ => none
  | fuel + 1, before, text => do
    let (bytes, rest) ← readString text
    if before.any (· != bytes) then none
    else
      let next := skipBlanks inside rest
      if startsString next then readStrings inside fuel (some bytes) next else some rest

/-- Read a constant or an empty set by its name. -/
def readName (inside : Bool) (text : List Char) : Option (Literal × List Char) :=
  let rest := text.dropWhile isNameChar
  match String.ofList (text.takeWhile isNameChar) with
  | "True" | "False" | "None" => some (.other true, rest)
  | "set" =>
    match skipBlanks inside rest with
    | '(' :: more =>
      match skipBlanks true more with
      | ')' :: after => some (.other false, after)
      | _ => none
    | _ => none
  | _ => none

mutual

/-- Read a literal that is no sum and has no sign, with so many levels of brackets left. -/
def readAtom (levels : Nat) : Nat → List Char → Option (Literal × List Char)
  | 0, _ => none
  | fuel + 1, text =>
    let inside := levels < nestingLimit
    match text with
    | '.' :: '.' :: '.' :: rest => some (.other true, rest)
    | '(' :: rest =>
      if levels = 0 then none
      else
        match skipBlanks true rest with
        | ')' :: after => some (.other true, after)
        | content =>
          match readItems (levels - 1) fuel ')' content with
          | some ([item], false, after) => some (item, after)
          | some (items, _, after) => some (.other (items.all Literal.canBeKey), after)
          | none => none
    | '\x7b' :: rest =>
      if levels = 0 then none
      else
        match skipBlanks true rest with
        | '\x7d' :: after => some (.other false, after)
        | content =>
          match readItems (levels - 1) fuel '\x7d' content with
          | some (items, _, after) =>
            if items.all Literal.canBeKey then some (.other false, after) else none
          | none =>
            (readPairs (levels - 1) fuel content).map fun after => (.other false, after)
    | _ =>
      if startsString text then
        (readStrings inside fuel none text).map fun after => (.other true, after)
      else if text.head?.any fun char => char.isDigit || char == '.' then readNumber text
      else readName inside text

/-- Read a literal. -/
def readLiteral (levels : Nat) : Nat → List Char → Option (Literal × List Char)
  | 0, _ => none
  | fuel + 1, text => do
    let inside := levels < nestingLimit
    let isSign (char : Char) : Bool := char == '+' || char == '-'
    let (first, rest) ←
      if text.head?.any isSign then
        match readAtom levels fuel (skipBlanks inside (text.drop 1)) with
        | some (.number imaginary, rest) => some (Literal.signed imaginary, rest)
        | _ => none
      else readAtom levels fuel text
    match skipBlanks inside rest with
    | [] => some (first, [])
    | char :: more =>
      if isSign char then
        if first = .number false ∨ first = .signed false then
          match readAtom levels fuel (skipBlanks inside more) with
          | some (.number true, after) => some (.other true, after)
          | _ => none
        else none
      else some (first, char :: more)

/-- Read literals up to a closing bracket; says whether there was a comma. -/
def readItems (levels : Nat) : Nat → Char → List Char → Option (List Literal × Bool × List Char)
  | 0, _, _ => none
  | fuel + 1, close, text => do
    let (item, rest) ← readLiteral levels fuel text
    match skipBlanks true rest with
    | ',' :: more =>
      let next := skipBlanks true more
      if next.head? == some close then some ([item], true, next.drop 1)
      else
        let (items, _, after) ← readItems levels fuel close next
        some (item :: items, true, after)
    | char :: after => if char == close then some ([item], false, after) else none
    | [] => none

/-- Read keys and values up to a closing brace. -/
def readPairs (levels : Nat) : Nat → List Char → Option (List Char)
  | 0, _ => none
  | fuel + 1, text => do
    let (key, rest) ← readLiteral levels fuel text
    match skipBlanks true rest with
    | ':' :: more =>
      let (_, rest) ← readLiteral levels fuel (skipBlanks true more)
      if !key.canBeKey then none
      else
        match skipBlanks true rest with
        | ',' :: more =>
          let next := skipBlanks true more
          if next.head? == some '\x7d' then some (next.drop 1) else readPairs levels fuel next
        | '\x7d' :: after => some after
        | _ => none
    | _ => none

end

/-- Read literals separated by commas up to the end of the line. -/
def readLine (fuel : Nat) : Nat → List Char → Option (List Char)
  | 0, _ => none
  | steps + 1, text => do
    let (_, rest) ← readLiteral nestingLimit fuel text
    match skipBlanks false rest with
    | ',' :: more =>
      let next := skipBlanks false more
      if next.isEmpty || next.head? == some '\n' then some next else readLine fuel steps next
    | next => some next

/-- Write every line end as a line feed. -/
def unifyLines : List Char → List Char
  | '\r' :: '\n' :: rest => '\n' :: unifyLines rest
  | '\r' :: rest => '\n' :: unifyLines rest
  | char :: rest => char :: unifyLines rest
  | [] => []

/-- Whether a text is a literal, or several separated by commas, with nothing but blanks and
comments around. -/
def isLiteral (text : List Char) : Bool :=
  let lines := skipBlanks true (unifyLines text)
  let fuel := 4 * lines.length + 8
  !text.contains '\x00' &&
    match readLine fuel fuel lines with
    | some rest => (skipBlanks true rest).isEmpty
    | none => false

end SchemaDoc.Console
