import Dialogue.Text.Digit
import Dialogue.Text.Quoted

/-!
# Command line options

Arguments are sorted into words first: operands, the separator that ends all options, and
options. A long option may be shortened as long as it stays unambiguous and may carry a
value behind an equals sign. Short options that need no value may be written together in
one argument. Then the words are read in order. A shortened option that could be several
is found out before anything else is done.
-/

namespace Dialogue.CommandLine

open Text

/-- The options of the program. -/
inductive Switch where
  | help
  | output
  | config
  | noFlush
  | check
  | verbose
  deriving DecidableEq, Repr

namespace Switch

/-- Every spelling of every option. -/
def spellings : List (String × Switch) :=
  [("-h", .help), ("--help", .help), ("-o", .output), ("--output", .output),
    ("--config", .config), ("--no-flush", .noFlush), ("--check", .check), ("-v", .verbose),
    ("--verbose", .verbose)]

/-- The option with exactly this spelling. -/
def spelled? (spelling : String) : Option Switch :=
  (spellings.find? fun entry => entry.1 = spelling).map (·.2)

/-- The spellings of an option together. -/
def title (switch : Switch) : String :=
  String.intercalate "/" ((spellings.filter fun entry => entry.2 = switch).map (·.1))

/-- Whether an option has a value. -/
def takesValue : Switch → Bool
  | .output => true
  | .config => true
  | _ => false

end Switch

/-- Why arguments are refused. -/
inductive Refusal where
  | ambiguous (argument : String) (spellings : List String)
  | valueExpected (switch : Switch)
  | valueIgnored (switch : Switch) (value : String)
  | inputRequired
  | unrecognized (arguments : List String)
  deriving DecidableEq, Repr

/-- The reason for a refusal. -/
def Refusal.message : Refusal → String
  | .ambiguous argument spellings =>
    "ambiguous option: " ++ argument ++ " could match " ++ String.intercalate ", " spellings
  | .valueExpected switch => "argument " ++ switch.title ++ ": expected one argument"
  | .valueIgnored switch value =>
    "argument " ++ switch.title ++ ": ignored explicit argument " ++ quote value
  | .inputRequired => "the following arguments are required: input"
  | .unrecognized arguments =>
    "unrecognized arguments: " ++ String.intercalate " " arguments

/-- What an argument is. -/
inductive Word where
  | operand
  | separator
  /-- An option by a short or a long spelling, and what is attached to that. -/
  | option (switch : Switch) (short : Bool) (attached : Option String)
  /-- What looks like an option but is none. -/
  | unknown
  deriving DecidableEq, Repr

/-! ## Single arguments -/

/-- A text before its first equals sign, and what follows that sign if there is one. -/
def splitEquals (text : String) : String × Option String :=
  match text.toList.dropWhile (· != '=') with
  | [] => (text, none)
  | _ :: value => (String.ofList (text.toList.takeWhile (· != '=')), some (String.ofList value))

/-- Whether a text is one of digits only, at least one. -/
def areDigits (text : List Char) : Bool :=
  !text.isEmpty && text.all isDecimalDigit

/-- A text without a line feed at its end. -/
def dropLineFeed (text : List Char) : List Char :=
  if text.getLast? = some '\n' then text.dropLast else text

/-- A minus sign and a decimal number, with a line feed behind it or not: an operand that does
not look like one. -/
def isNegativeNumber (argument : List Char) : Bool :=
  match dropLineFeed argument with
  | '-' :: number =>
    match number.dropWhile isDecimalDigit with
    | '.' :: fraction => areDigits fraction
    | _ => areDigits number
  | _ => false

/-- What an argument is that begins with a minus sign and is no option as it stands. -/
def looseWord (argument : String) : Word :=
  if isNegativeNumber argument.toList || argument.toList.contains ' ' then .operand
  else .unknown

/-- An argument that begins with two minus signs and may be the beginning of an option. -/
def longWord (argument : String) : Except Refusal Word :=
  let (stem, value) := splitEquals argument
  match Switch.spellings.filter fun entry => stem.toList.isPrefixOf entry.1.toList with
  | [] => .ok (looseWord argument)
  | [(_, switch)] => .ok (.option switch false value)
  | several => .error (.ambiguous argument (several.map (·.1)))

/-- An argument that begins with one minus sign and more than the letter of an option. -/
def shortWord (argument : String) : Word :=
  match Switch.spelled? (String.ofList (argument.toList.take 2)) with
  | some switch => .option switch true (some (String.ofList (argument.toList.drop 2)))
  | none => looseWord argument

/-- What an argument is. -/
def word (argument : String) : Except Refusal Word :=
  match argument.toList with
  | '-' :: second :: _ =>
    let short := second != '-'
    match Switch.spelled? argument with
    | some switch => .ok (.option switch short none)
    | none =>
      let (stem, value) := splitEquals argument
      match value, Switch.spelled? stem with
      | some value, some switch => .ok (.option switch short (some value))
      | _, _ => if short then .ok (shortWord argument) else longWord argument
  | _ => .ok .operand

/-- The words of arguments; behind the separator everything is an operand. -/
def words : List String → Except Refusal (List (String × Word))
  | [] => .ok []
  | argument :: rest =>
    if argument = "--" then .ok ((argument, .separator) :: rest.map fun text => (text, .operand))
    else do
      let first ← word argument
      let others ← words rest
      return (argument, first) :: others

/-! ## All arguments -/

/-- What the arguments ask for. An option that is given several times counts as given last. -/
structure Options where
  input : Option String := none
  output : Option String := none
  config : Option String := none
  noFlush : Bool := false
  check : Bool := false
  verbose : Bool := false
  help : Bool := false
  /-- Arguments that mean nothing. -/
  extra : List String := []
  deriving DecidableEq, Repr

namespace Options

/-- The options with one more that has a value. Two minus signs are no value: with them the
option counts as not given. -/
def setValue (options : Options) (switch : Switch) (value : String) : Options :=
  let value := if value = "--" then none else some value
  match switch with
  | .output => { options with output := value }
  | .config => { options with config := value }
  | _ => options

/-- The options with one more that has none. -/
def setFlag (options : Options) (switch : Switch) : Options :=
  match switch with
  | .help => { options with help := true }
  | .noFlush => { options with noFlush := true }
  | .check => { options with check := true }
  | .verbose => { options with verbose := true }
  | _ => options

/-- The options with one more argument that means nothing. -/
def addExtra (options : Options) (argument : String) : Options :=
  { options with extra := options.extra ++ [argument] }

end Options

/-- Options after one argument, and the last option of it if that waits for its value. -/
abbrev Reading := Except Refusal (Options × Option Switch)

/-- An option with nothing attached to it: it waits for a value or is complete. -/
def bareOption (options : Options) (switch : Switch) : Reading :=
  if switch.takesValue then .ok (options, some switch)
  else .ok (options.setFlag switch, none)

/-- A short option with characters behind it: they are its value if it has use for one, and
otherwise the next one must be the letter of an option, which the rest is behind. -/
def readLetters (options : Options) (switch : Switch) : List Char → Reading
  | [] => bareOption options switch
  | letter :: rest =>
    let attached := String.ofList (letter :: rest)
    if switch.takesValue then .ok (options.setValue switch attached, none)
    else
      match Switch.spelled? (String.ofList ['-', letter]) with
      | none => .error (.valueIgnored switch attached)
      | some next => readLetters (options.setFlag switch) next rest

/-- An option with what is attached to it. Behind a short option it is letters, even if an
equals sign stands between them. -/
def readOption (options : Options) (switch : Switch) (short : Bool) : Option String → Reading
  | none => bareOption options switch
  | some value =>
    if short && value ≠ "" then readLetters options switch value.toList
    else if switch.takesValue then .ok (options.setValue switch value, none)
    else .error (.valueIgnored switch value)

/-- Read words in order, until help is asked for. The first operand is the input; the separator
belongs to it, whether it stands before or behind. -/
def readWords (options : Options) : List (String × Word) → Except Refusal Options
  | [] => .ok options
  | (argument, .operand) :: rest =>
    match options.input, rest with
    | some _, rest => readWords (options.addExtra argument) rest
    | none, (_, .separator) :: rest => readWords { options with input := some argument } rest
    | none, rest => readWords { options with input := some argument } rest
  | (argument, .separator) :: rest =>
    match options.input, rest with
    | none, (input, .operand) :: rest => readWords { options with input := some input } rest
    | _, rest => readWords (options.addExtra argument) rest
  | (argument, .unknown) :: rest => readWords (options.addExtra argument) rest
  | (_, .option switch short attached) :: rest =>
    match readOption options switch short attached, rest with
    | .error refusal, _ => .error refusal
    | .ok (options, none), rest =>
      if options.help then .ok options else readWords options rest
    | .ok (options, some switch), (value, .operand) :: rest =>
      if options.help then .ok options else readWords (options.setValue switch value) rest
    | .ok (_, some switch), _ => .error (.valueExpected switch)

/-- What a command line asks for. -/
inductive Parsed where
  | help
  | run (options : Options) (input : String)
  deriving DecidableEq, Repr

/-- What arguments ask for. -/
def parse (arguments : List String) : Except Refusal Parsed := do
  let sorted ← words arguments
  let options ← readWords {} sorted
  if options.help then return .help
  else
    match options.input with
    | none => .error .inputRequired
    | some input =>
      if options.extra.isEmpty then return .run options input
      else .error (.unrecognized options.extra)

end Dialogue.CommandLine
