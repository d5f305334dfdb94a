import Multiples.Client
import Multiples.Program.Arguments

/-!
# The command line of the client

One command at an address: find the multiples of a divisor, show the descriptor, or try two cases whose results are
known.

* `CommandLine.parse` reads the arguments;
* `CommandLine.dialog` carries a command out and says what to print and how to end.
-/

namespace Multiples

/-- What a program prints and how it ends. -/
structure ProgramOutput where
  exit : Nat := 0
  stdout : Text := []
  stderr : Text := []
deriving DecidableEq, Repr

/-- What the client can be told to do. -/
inductive Command where
  | find (r : Request)
  | describe
  | demo
deriving DecidableEq, Repr

/-- What arguments ask for. -/
inductive CommandLine where
  | run (url : Text) (command : Command)
  | help
  | misuse
deriving DecidableEq, Repr

namespace CommandLine

/-! ### Reading arguments -/

/-- The address of the service. -/
def urlOption : CommandOption := { long := "url".toList, short := 'u' }

/-- The integers to look at, between commas. -/
def numbersOption : CommandOption := { long := "numbers".toList, short := 'n', free := true }

/-- The divisor. -/
def divisorOption : CommandOption := { long := "divisor".toList, short := 'd', free := true }

/-- The address that is taken when none is given. -/
def defaultUrl : Text := "http://localhost:8080/factorservice".toList

/-- Whether arguments are at their end, which two dashes may mark. -/
def isEnd (arguments : List Text) : Bool := arguments == [] || arguments == ["--".toList]

/-- Reads the arguments of the command that finds multiples. -/
def parseFind (url : Text) (numbers : List Int64) (divisor : Option Int64) (arguments : List Text) : CommandLine :=
  match arguments with
  | [] => match divisor with
    | some divisor => .run url (.find { numbers, divisor })
    | none => .misuse
  | argument :: more =>
    match _taken : numbersOption.take? (argument :: more) with
    | some (some (value, rest)) =>
      match (value.cells ',').mapM Decimal.int64? with
      | some ns => parseFind url (numbers ++ ns) divisor rest
      | none => .misuse
    | some none => .misuse
    | none =>
      match _taken : divisorOption.take? (argument :: more) with
      | some (some (value, rest)) =>
        match divisor, Decimal.int64? value with
        | none, some d => parseFind url numbers (some d) rest
        | _, _ => .misuse
      | some none => .misuse
      | none =>
        if asksForHelp argument then .help
        else if argument = "--".toList ∧ more = [] then parseFind url numbers divisor []
        else .misuse
termination_by arguments.length
decreasing_by
  · exact CommandOption.length_take? _taken
  · exact CommandOption.length_take? _taken
  · simp

/-- Reads the arguments of a command without options. -/
def parseBare (url : Text) (command : Command) (arguments : List Text) : CommandLine :=
  if isEnd arguments then .run url command
  else if (arguments.head?.getD []) |> asksForHelp then .help
  else .misuse

/-- The names of the commands. -/
def commandNames : List Text := ["find".toList, "describe".toList, "demo".toList, "help".toList]

/-- Reads a command and its arguments. -/
def parseCommand (url : Text) (name : Text) (arguments : List Text) : CommandLine :=
  if name = "find".toList then parseFind url [] none arguments
  else if name = "describe".toList then parseBare url .describe arguments
  else if name = "demo".toList then parseBare url .demo arguments
  else if name = "help".toList then
    match arguments with
    | [] => .help
    | [topic] => if commandNames.contains topic then .help else .misuse
    | _ => .misuse
  else .misuse

/-- Reads all arguments: perhaps the address, once, and then a command. -/
def parse (arguments : List Text) : CommandLine :=
  match urlOption.take? arguments with
  | some none => .misuse
  | some (some (url, rest)) =>
    match rest with
    | name :: more => if asksForHelp name then .help else parseCommand url name more
    | [] => .misuse
  | none =>
    match arguments with
    | name :: more => if asksForHelp name then .help else parseCommand defaultUrl name more
    | [] => .misuse

/-! ### Endings -/

/-- A text on a line of its own. -/
def line (t : Text) : Text := t ++ ['\n']

/-- Data of an error by name, between braces. -/
def dataOf (name : String) (fields : List (String × Text)) : Text :=
  name.toList ++ [' ', '\x7b', ' ']
    ++ Text.glue [',', ' '] (fields.map fun f => f.1.toList ++ ':' :: ' ' :: f.2) ++ [' ', '\x7d']

/-- A decode error with all its data. -/
def decodeDetail : DecodeError → Text
  | .invalidNumber field token => dataOf "InvalidNumber" [("field", field.quoted), ("token", token.quoted)]
  | .missingResult => "MissingResult".toList

/-- A client error with all its data. -/
def errorDetail : ClientError → Text
  | .transport e => "Http(".toList ++ e.message.quoted ++ [')']
  | .status code body => dataOf "Status" [("status", Decimal.ofNat code), ("body", body.quoted)]
  | .fault code message => dataOf "Fault" [("code", code.quoted), ("message", message.quoted)]
  | .decode e => "Decode(".toList ++ decodeDetail e ++ [')']

/-- An end with an error. -/
def failure (e : ClientError) : ProgramOutput :=
  { exit := 1, stderr := line ("Error: ".toList ++ errorDetail e) }

/-! ### Carrying out commands -/

/-- Integers as they are printed. -/
def shown (numbers : List Int64) : Text := Envelope.joined [',', ' '] numbers

/-- What is printed of the multiples, or of a fault, which ends the program without further ado. -/
def findOutput : Except ClientError (List Int64) → ProgramOutput
  | .ok numbers => { stdout := line (shown numbers) }
  | .error (.fault code message) =>
    { exit := 1, stderr := line ("Fault (".toList ++ code ++ "): ".toList ++ message) }
  | .error e => failure e

/-- What is printed of the descriptor. -/
def describeOutput : Except ClientError Text → ProgramOutput
  | .ok doc => { stdout := line doc }
  | .error e => failure e

/-- A request whose result is known. -/
structure Case where
  request : Request
  expected : List Int64

/-- The cases that are tried. -/
def demoCases : List Case :=
  [⟨⟨[1, 5, 23, 25, 35, 78, 30, 96], 5⟩, [5, 25, 35, 30]⟩,
   ⟨⟨[3, 20, 15], 3⟩, [3, 15]⟩]

/-- Whether a case went as expected. -/
def Case.passed (c : Case) : Except ClientError (List Int64) → Bool
  | .ok numbers => numbers == c.expected
  | .error _ => false

/-- What is printed about a case before it is tried. -/
def Case.heading (c : Case) (i : Nat) : Text :=
  line ("--- Case ".toList ++ Decimal.ofNat i ++ " ---".toList)
    ++ line ("Numbers: [".toList ++ shown c.request.numbers ++ [']'])
    ++ line ("Divisor: ".toList ++ Decimal.ofInt64 c.request.divisor)

/-- What is printed about a case after it was tried. -/
def Case.verdict (c : Case) : Except ClientError (List Int64) → Text
  | .ok numbers =>
    line ("Result: ".toList ++ shown numbers)
      ++ (if numbers = c.expected then line "PASSED".toList
          else line ("Expected: ".toList ++ shown c.expected) ++ line "FAILED".toList)
  | .error e => line ("Error: ".toList ++ e.message) ++ line "FAILED".toList

/-- Tries cases in order, counting from a number on: what is printed, and how many did not go as expected. -/
def tryCases (url : Text) : Nat → List Case → Dialog (Text × Nat)
  | _, [] => pure ([], 0)
  | i, c :: more => do
    let result ← Client.find url c.request
    let (printed, failed) ← tryCases url (i + 1) more
    pure (c.heading i ++ c.verdict result ++ printed, if c.passed result then failed else failed + 1)

/-- Carries a command out. -/
def perform (url : Text) : Command → Dialog ProgramOutput
  | .find r => do
    let result ← Client.find url r
    pure (findOutput result)
  | .describe => do
    let result ← Client.describe url
    pure (describeOutput result)
  | .demo => do
    let (stdout, failed) ← tryCases url 1 demoCases
    pure { exit := if failed = 0 then 0 else 1, stdout }

/-- How the client is used. -/
def usage : Text := "Usage: multiples [--url URL] find [--numbers N,N,...] --divisor N | describe | demo".toList

/-- Carries out what arguments ask for. -/
def dialog : CommandLine → Dialog ProgramOutput
  | .run url command => perform url command
  | .help => pure { stdout := line usage }
  | .misuse => pure { exit := 2, stderr := line usage }

end CommandLine

end Multiples
