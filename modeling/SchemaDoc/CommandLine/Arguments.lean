import SchemaDoc.Description.Embedding
import SchemaDoc.Description.Ids
import SchemaDoc.Workspace.Path

/-!
# Command line arguments

Options start with a dash. A long one may have its value behind an equals sign, short ones may
stand together behind one dash, and a value may also be the next word, whatever that starts with.
Two dashes alone end the options. Before the command only the options of the whole program may
stand; behind it, options and other words mix.
-/
namespace SchemaDoc.CommandLine

open Description (EmbedFlags)
open Descriptor (EntityKind)
open Text (readSetting)
open Workspace (Path)

/-- A word of a command line. -/
abbrev Word := List Char

/-- The options. -/
inductive OptionKey where
  | help
  | verbose
  | output
  | include
  | joinLines
  | stripSourceInfo
  | number (kind : EntityKind)
  deriving DecidableEq, Repr

namespace OptionKey

/-- The long name of an option. -/
def long : OptionKey → Word
  | .help => "help".toList
  | .verbose => "verbose".toList
  | .output => "output".toList
  | .include => "include".toList
  | .joinLines => "join-lines".toList
  | .stripSourceInfo => "strip-source-info".toList
  | .number kind =>
    (kind.name.toList.map fun char => if char == '_' then '-' else char) ++ "-id".toList

/-- The letter of an option. -/
def letter? : OptionKey → Option Char
  | .help => some 'h'
  | .verbose => some 'v'
  | .output => some 'o'
  | .include => some 'I'
  | _ => none

/-- Whether an option has a value. -/
def takesValue : OptionKey → Bool
  | .help | .verbose | .joinLines | .stripSourceInfo => false
  | .output | .include | .number _ => true

/-- The options with numbers. -/
def numbers : List OptionKey :=
  EntityKind.all.map number

end OptionKey

/-- What options were given: each with its value, which is empty if it has none. -/
abbrev Given := List (OptionKey × Word)

/-- What one word says about options: what is given, and the option whose value comes next. -/
structure OptionWord where
  given : Given
  awaiting : Option OptionKey := none

/-- Read the letters behind a dash. -/
def readLetters (known : List OptionKey) : List Char → Option OptionWord
  | [] => some { given := [] }
  | letter :: rest =>
    match known.find? fun key => key.letter? == some letter with
    | none => none
    | some key =>
      if key.takesValue then
        if rest.isEmpty then some { given := [], awaiting := some key }
        else some { given := [(key, rest)] }
      else
        (readLetters known rest).map fun said => { said with given := (key, []) :: said.given }

/-- Read what is behind two dashes. -/
def readLong (known : List OptionKey) (text : Word) : Option OptionWord :=
  let name := text.takeWhile (· != '=')
  match known.find? fun key => key.long == name with
  | none => none
  | some key =>
    match text.dropWhile (· != '='), key.takesValue with
    | [], true => some { given := [], awaiting := some key }
    | [], false => some { given := [(key, [])] }
    | _ :: value, true => some { given := [(key, value)] }
    | _ :: _, false => none

/-- Read a word that starts with a dash. -/
def readOption (known : List OptionKey) : Word → Option OptionWord
  | '-' :: '-' :: text => readLong known text
  | '-' :: letters => readLetters known letters
  | _ => none

/-- Whether a word is read for options. A dash alone is not. -/
def isOption (word : Word) : Bool :=
  word.head? == some '-' && word.length > 1

/-- The word that ends the options. -/
def optionsEnd : Word := "--".toList

/-- Part the options from the other words, or fail. Unless they mix, the first other word ends the
options. -/
def partWords (known : List OptionKey) (mixed : Bool) : List Word → Option (Given × List Word)
  | [] => some ([], [])
  | word :: rest =>
    if word == optionsEnd then some ([], rest)
    else if isOption word then
      match readOption known word, rest with
      | none, _ => none
      | some { given, awaiting := none }, rest =>
        (partWords known mixed rest).map fun (more, words) => (given ++ more, words)
      | some { given, awaiting := some key }, value :: rest =>
        (partWords known mixed rest).map fun (more, words) =>
          (given ++ (key, value) :: more, words)
      | some { awaiting := some _, .. }, [] => none
    else if mixed then
      (partWords known mixed rest).map fun (given, words) => (given, word :: words)
    else some ([], word :: rest)

namespace Given

/-- Whether an option was given. -/
def has (given : Given) (key : OptionKey) : Bool :=
  given.any fun entry => entry.1 == key

/-- The values of an option, in order. -/
def values (given : Given) (key : OptionKey) : List Word :=
  (given.filter fun entry => entry.1 == key).map (·.2)

/-- The value of an option that counts: the last one. -/
def value? (given : Given) (key : OptionKey) : Option Word :=
  (given.values key).getLast?

end Given

/-- The numbers that were given for the kinds of entity. -/
abbrev Numbers := EntityKind → Option Int

/-- A command with its arguments. -/
inductive Command where
  | embed (patterns : List Word) (output : Path) (includes : List Path) (flags : EmbedFlags)
      (numbers : Numbers)
  | embedSet (source output : Path) (flags : EmbedFlags) (numbers : Numbers)
  | extract (patterns : List Word) (output : Path) (includes : List Path) (numbers : Numbers)
  | watch (directory output : Path) (flags : EmbedFlags) (numbers : Numbers)

/-- What a command line asks for. -/
inductive Request where
  | help
  /-- The command line makes no sense. -/
  | misuse
  | command (verbose : Bool) (command : Command)

/-- The names of the commands. -/
inductive CommandName where
  | embed
  | embedSet
  | extract
  | watch
  deriving DecidableEq, Repr

namespace CommandName

/-- The command of a name. -/
def ofWord? (word : Word) : Option CommandName :=
  match String.ofList word with
  | "embed" => some .embed
  | "embed-set" => some .embedSet
  | "extract" => some .extract
  | "watch" => some .watch
  | _ => none

/-- The options of a command. -/
def options (name : CommandName) : List OptionKey :=
  .help :: OptionKey.numbers ++
    match name with
    | .embed => [.output, .include, .joinLines, .stripSourceInfo]
    | .embedSet => [.joinLines, .stripSourceInfo]
    | .extract => [.output, .include]
    | .watch => [.output, .joinLines, .stripSourceInfo]

end CommandName

/-- The number that a word writes. -/
def readNumber (word : Word) : Option Int :=
  match readSetting word with
  | .number value => some value
  | .unreadable | .tooLong => none

/-- Read the numbers that were given, unless one of them is not a number. -/
def Given.numbers? (given : Given) : Option Numbers :=
  let whole (kind : EntityKind) : Bool :=
    (given.value? (.number kind)).all fun word => (readNumber word).isSome
  if EntityKind.all.all whole then
    some fun kind => (given.value? (.number kind)).bind readNumber
  else none

/-- The flags that were given. -/
def Given.flags (given : Given) : EmbedFlags where
  joinLines := given.has .joinLines
  stripSourceInfo := given.has .stripSourceInfo

/-- Where extracted files go if nothing else is said. -/
def standardOutput : Path := Path.ofText "out".toList

/-- The path that a word writes. No path has a null character. -/
def readPath (word : Word) : Option Path :=
  if word.contains '\x00' then none else some (Path.ofText word)

/-- The command that options and words make, if they make one. -/
def CommandName.command? (name : CommandName) (given : Given) (words : List Word) :
    Option Command := do
  let numbers ← given.numbers?
  let output ← (given.value? .output).mapM readPath
  let includes ← (given.values .include).mapM readPath
  match name, words with
  | .embed, [] => none
  | .embed, patterns => return .embed patterns (← output) includes given.flags numbers
  | .embedSet, [source, target] =>
    return .embedSet (← readPath source) (← readPath target) given.flags numbers
  | .embedSet, _ => none
  | .extract, [] => none
  | .extract, patterns => return .extract patterns (output.getD standardOutput) includes numbers
  | .watch, [directory] => return .watch (← readPath directory) (← output) given.flags numbers
  | .watch, _ => none

/-- What the words behind the name of a command ask for. -/
def readCommand (verbose : Bool) (name : CommandName) (arguments : List Word) : Request :=
  match partWords name.options true arguments with
  | none => .misuse
  | some (given, words) =>
    if given.has .help then .help
    else
      match name.command? given words with
      | none => .misuse
      | some command => .command verbose command

/-- The options of the whole program. -/
def programOptions : List OptionKey := [.help, .verbose]

/-- Whether words that name no command ask for help. -/
def asksHelp (words : List Word) : Bool :=
  match partWords programOptions false words with
  | some (given, _) => given.has .help
  | none => false

/-- What a command line asks for. -/
def readArguments (arguments : List Word) : Request :=
  match partWords programOptions false arguments with
  | none => .misuse
  | some (given, words) =>
    if given.has .help then .help
    else
      match words with
      | [] => .misuse
      | name :: rest =>
        match CommandName.ofWord? name with
        | some name => readCommand (given.has .verbose) name rest
        | none => if asksHelp words then .help else .misuse

end SchemaDoc.CommandLine
