import GraphQuery.CommandLine.Command
import GraphQuery.Decimal.Numeral
import GraphQuery.Text.Blank
import GraphQuery.Text.Styled

/-
This file reads the arguments of the command line.
-/

namespace GraphQuery.CommandLine

/-- These options take a value each. -/
inductive ValueOption where
  | url
  | query
  | file
  | variablesText
  | header
  | timeout
  | format
deriving DecidableEq, Repr

namespace ValueOption

def long : ValueOption → String
  | url => "url"
  | query => "query"
  | file => "file"
  | variablesText => "variables"
  | header => "header"
  | timeout => "timeout"
  | format => "format"

/-- The word that stands for the value in messages. -/
def placeholder : ValueOption → String
  | url => "URL"
  | query => "QUERY"
  | file => "FILE"
  | variablesText => "VARIABLES"
  | header => "HEADERS"
  | timeout => "TIMEOUT"
  | format => "FORMAT"

def display (option : ValueOption) : String :=
  "--" ++ option.long ++ " <" ++ option.placeholder ++ ">"

def all : List ValueOption := [url, query, file, variablesText, header, timeout, format]

/-- Only headers may be given more than once. -/
def isRepeatable (option : ValueOption) : Bool := option == header

end ValueOption

/-- These options stand alone. -/
inductive Flag where
  | verbose
  | help
  | version
deriving DecidableEq, Repr

namespace Flag

def long : Flag → String
  | verbose => "verbose"
  | help => "help"
  | version => "version"

def short : Flag → Char
  | verbose => 'v'
  | help => 'h'
  | version => 'V'

/-- Dots mark a flag that may be repeated. -/
def display (flag : Flag) : String :=
  "--" ++ flag.long ++ (if flag == verbose then "..." else "")

def all : List Flag := [verbose, help, version]

end Flag

/-- Arguments before the name of the command belong to the program. -/
inductive Level where
  | program
  | run
deriving DecidableEq, Repr

namespace Level

def options : Level → List ValueOption
  | program => [.format]
  | run => ValueOption.all

def flags : Level → List Flag
  | program => Flag.all
  | run => [.verbose, .help]

def option? (level : Level) (long : String) : Option ValueOption :=
  level.options.find? (·.long == long)

def flag? (level : Level) (long : String) : Option Flag := level.flags.find? (·.long == long)

end Level

/-- These are the ways in which arguments can be wrong. -/
inductive UsageProblem where
  | unexpectedArgument (argument : String)
  | unrecognizedCommand (name : String)
  | unexpectedValue (value : String) (flag : Flag)
  | valueMissing (option : ValueOption)
  | valueRepeated (option : ValueOption)
  | invalidValue (value : String) (option : ValueOption) (reason : Option String)
  | conflict (first second : ValueOption)
  | requirementMissing
  | commandMissing
deriving DecidableEq, Repr

open Text.Span in
/-- What was given is told from what is expected. -/
def UsageProblem.message : UsageProblem → List Text.Span
  | unexpectedArgument argument =>
    [plain "unexpected argument '", fault argument, plain "' found"]
  | unrecognizedCommand name => [plain "unrecognized subcommand '", fault name, plain "'"]
  | unexpectedValue value flag =>
    [plain "unexpected value '", fault value, plain "' for '", literal flag.display,
      plain "' found; no more were expected"]
  | valueMissing option =>
    [plain "a value is required for '", literal option.display,
      plain "' but none was supplied"]
  | valueRepeated option =>
    [plain "the argument '", fault option.display, plain "' cannot be used multiple times"]
  | invalidValue value option reason =>
    [plain "invalid value '", fault value, plain "' for '", literal option.display,
      plain ("'" ++ reason.elim "" (": " ++ ·))]
  | conflict first second =>
    [plain "the argument '", fault first.display, plain "' cannot be used with '",
      fault second.display, plain "'"]
  | requirementMissing => [plain "the following required arguments were not provided:"]
  | commandMissing =>
    [plain "'", fault "gqlnodes", plain "' requires a subcommand but one was not provided"]

/-- Arguments ask for a run or for a text, or they are wrong.
Without any argument the help stands in place of an error. -/
inductive Invocation where
  | run (command : RunCommand) (format : Option OutputFormat) (verbosity : Nat)
  | help (level : Level)
  | version
  | noArguments

/-- Reading ends early at a problem, a wish for help or one for the version. -/
inductive Stop where
  | problem (problem : UsageProblem)
  | help (level : Level)
  | version

/-- A header is written as a name and a value around the first colon. -/
def readHeader (text : String) : Except String (String × String) :=
  match text.toList.dropWhile (· != ':') with
  | [] => .error ("expected `Name: value`, got '" ++ text ++ "'")
  | _ :: rest =>
    let name := String.ofList (Text.trim (text.toList.takeWhile (· != ':')))
    if name.isEmpty then .error ("header name is empty in '" ++ text ++ "'")
    else .ok (name, String.ofList (Text.trim rest))

/-- The digits continue a number below `2 ^ 64`; the first one that is wrong ends this. -/
def readDigits : Nat → List Char → Except String Nat
  | value, [] => .ok value
  | value, digit :: rest =>
    let next := 10 * value + Decimal.digitValue digit
    if !digit.isDigit then .error "invalid digit found in string"
    else if Nat.pow 2 64 ≤ next then .error "number too large to fit in target type"
    else readDigits next rest

/-- A number of seconds may have a plus sign. -/
def readSeconds (text : String) : Except String Nat :=
  match text.toList with
  | [] => .error "cannot parse integer from empty string"
  | '+' :: first :: rest => readDigits 0 (first :: rest)
  | digits => readDigits 0 digits

/-- Why an option does not take a value; the name of a file or a format cannot be empty. -/
def ValueOption.refusal? (option : ValueOption) (value : String) : Option UsageProblem :=
  let invalid {A : Type} : Except String A → Option UsageProblem
    | .ok _ => none
    | .error reason => some (.invalidValue value option (some reason))
  match option with
  | header => invalid (readHeader value)
  | timeout => invalid (readSeconds value)
  | file => if value.isEmpty then some (.valueMissing option) else none
  | format =>
    if value.isEmpty then some (.valueMissing option)
    else if (OutputFormat.ofName? value).isSome then none
    else some (.invalidValue value option none)
  | _ => none

/-- The state of reading at one level.
An option waits for its value, or for the next argument, before its value is checked. -/
structure Reading where
  accepted : List (ValueOption × String) := []
  pending : Option (ValueOption × Option String) := none
  verbosity : Nat := 0
  /-- Two dashes end the options. -/
  trailing : Bool := false

namespace Reading

def value? (reading : Reading) (option : ValueOption) : Option String :=
  reading.accepted.lookup option

def accept (reading : Reading) (option : ValueOption) (value : String) :
    Except UsageProblem Reading :=
  if !option.isRepeatable ∧ (reading.value? option).isSome then .error (.valueRepeated option)
  else match option.refusal? value with
    | some problem => .error problem
    | none => .ok { reading with accepted := reading.accepted ++ [(option, value)] }

/-- The option that waits is checked. -/
def settle (reading : Reading) : Except UsageProblem Reading :=
  match reading.pending with
  | none => .ok reading
  | some (option, none) => .error (.valueMissing option)
  | some (option, some value) => { reading with pending := none }.accept option value

def raise {A : Type} : Except UsageProblem A → Except Stop A
  | .ok value => .ok value
  | .error problem => .error (.problem problem)

def useFlag (level : Level) (reading : Reading) (flag : Flag) : Except Stop Reading := do
  let reading ← raise reading.settle
  match flag with
  | .verbose => return { reading with verbosity := reading.verbosity + 1 }
  | .help => throw (.help level)
  | .version => throw .version

/-- An argument that starts with two dashes; an equals sign may attach a value. -/
def readLong (level : Level) (reading : Reading) (argument : List Char) : Except Stop Reading := do
  let name := String.ofList (argument.takeWhile (· != '='))
  let attached := match argument.dropWhile (· != '=') with
    | [] => none
    | _ :: value => some (String.ofList value)
  match level.option? name, level.flag? name, attached with
  | some option, _, none =>
    return { ← raise reading.settle with pending := some (option, none) }
  | some option, _, some value => raise do (← reading.settle).accept option value
  | none, some flag, none => reading.useFlag level flag
  | none, some flag, some value => throw (.problem (.unexpectedValue value flag))
  | none, none, _ => throw (.problem (.unexpectedArgument ("--" ++ name)))

/-- The letters after a single dash; the header takes the rest as its value. -/
def readShort (level : Level) : Reading → List Char → Except Stop Reading
  | reading, [] => .ok reading
  | reading, letter :: rest =>
    match level.flags.find? (·.short == letter) with
    | some flag => do readShort level (← reading.useFlag level flag) rest
    | none =>
      if letter = 'H' ∧ level = .run then
        match rest with
        | [] => do return { ← raise reading.settle with pending := some (.header, none) }
        | '=' :: value => raise do (← reading.settle).accept .header (String.ofList value)
        | value => raise do (← reading.settle).accept .header (String.ofList value)
      else .error (.problem (.unexpectedArgument (String.ofList ['-', letter])))

def waitsForValue (reading : Reading) : Bool :=
  match reading.pending with
  | some (_, none) => true
  | _ => false

/-- An argument that is neither an option nor a value. -/
def refusePlain (level : Level) (trailing : Bool) (argument : String) : UsageProblem :=
  if level = .program ∧ !(trailing ∧ argument ∈ ["run", "help"]) then .unrecognizedCommand argument
  else .unexpectedArgument argument

/-- A single dash is an ordinary value, and so is everything without one. -/
def readArgument (level : Level) (reading : Reading) (argument : String) : Except Stop Reading :=
  if reading.trailing then .error (.problem (refusePlain level true argument))
  else match argument.toList with
    | ['-', '-'] => .ok { reading with trailing := true }
    | '-' :: '-' :: long => reading.readLong level long
    | '-' :: letter :: letters => readShort level reading (letter :: letters)
    | _ =>
      match reading.pending with
      | some (option, none) => .ok { reading with pending := some (option, some argument) }
      | _ => .error (.problem (refusePlain level false argument))

end Reading

/-- The command that the accepted values describe. -/
def commandOf (reading : Reading) (urlFromEnvironment : Option String) :
    Except UsageProblem RunCommand :=
  let order := reading.accepted.map Prod.fst
  match order.filter fun option => option == .query || option == .file with
  | first :: second :: _ => .error (.conflict first second)
  | [] => .error .requirementMissing
  | [_] =>
    match reading.value? .url <|> urlFromEnvironment with
    | none => .error .requirementMissing
    | some url => .ok {
        url
        query := reading.value? .query
        file := reading.value? .file
        variablesText := reading.value? .variablesText
        headers := reading.accepted.filterMap fun (option, value) =>
          if option == .header then (readHeader value).toOption else none
        timeout := (reading.value? .timeout).bind fun value => (readSeconds value).toOption }

def formatOf (reading : Reading) : Option OutputFormat :=
  (reading.value? .format).bind OutputFormat.ofName?

/-- The arguments after the name of the command; the choices made before it come second. -/
def readRun (program : Reading) (urlFromEnvironment : Option String) (arguments : List String) :
    Except Stop Invocation := do
  let reading ← arguments.foldlM (Reading.readArgument .run) {}
  let reading ← Reading.raise reading.settle
  let command ← Reading.raise (commandOf reading urlFromEnvironment)
  let program ← Reading.raise program.settle
  return .run command (formatOf reading <|> formatOf program)
    (if reading.verbosity = 0 then program.verbosity else reading.verbosity)

/-- The help on the whole program or on a command. -/
def readHelp : List String → Except Stop Invocation
  | [] | ["help"] => .ok (.help .program)
  | ["run"] => .ok (.help .run)
  | "run" :: name :: _ | "help" :: name :: _ | name :: _ =>
    .error (.problem (.unrecognizedCommand name))

/-- The arguments before the name of the command. -/
def readProgram (urlFromEnvironment : Option String) (reading : Reading) :
    List String → Except Stop Invocation
  | [] => do
    let reading ← Reading.raise reading.settle
    if reading.accepted.isEmpty ∧ reading.verbosity = 0 then return .noArguments
    else throw (.problem .commandMissing)
  | argument :: rest =>
    if argument = "run" ∧ !reading.waitsForValue ∧ !reading.trailing then
      readRun reading urlFromEnvironment rest
    else if argument = "help" ∧ !reading.waitsForValue ∧ !reading.trailing then readHelp rest
    else do readProgram urlFromEnvironment (← reading.readArgument .program argument) rest

/-- What the arguments ask for. -/
def Invocation.read (urlFromEnvironment : Option String) (arguments : List String) :
    Except UsageProblem Invocation :=
  match readProgram urlFromEnvironment {} arguments with
  | .ok request => .ok request
  | .error (.problem problem) => .error problem
  | .error (.help level) => .ok (.help level)
  | .error .version => .ok .version

end GraphQuery.CommandLine
