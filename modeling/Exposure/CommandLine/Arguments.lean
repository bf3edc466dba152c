import Exposure.Decimal.Whole
import Exposure.Settings.Basic

/-!
# Arguments

The command line holds options, one of four commands, and the command's own options and operand.
An option is given by its letter or its name; letters may be written together, and a value may be
attached or follow as an argument of its own. An argument after `--` is always an operand.

`scan` reads one level of options. It stops at the first argument that does not fit, at a request
for help or for the version, or at a command. No option may be given twice at one level, but those
for the settings file and for more logging are understood at both.
-/

namespace Exposure.CommandLine

open Settings (Format)

/-! ### What can be asked for -/

/-- What a command is to do. -/
inductive Action where
  /-- Write a settings file to start from, perhaps over the one that is there. -/
  | init (force : Bool)
  /-- Show the plan of a graph, in another format than the settings say and with another number
  of threads if they are given. -/
  | plan (graph : String) (format : Option Format) (threads : Option Nat)
  /-- Say whether a graph has a plan. -/
  | check (graph : String)
  /-- Show the settings. -/
  | config
  deriving DecidableEq, Repr

/-- What the arguments come to. -/
structure Request where
  /-- The settings file to use. -/
  settingsPath : Option String
  /-- Whether more is to be logged. -/
  verbose : Bool
  action : Action
  deriving DecidableEq, Repr

/-- How arguments can be understood. -/
inductive Reading where
  | request (request : Request)
  | version
  | help
  | misuse
  deriving DecidableEq, Repr

/-! ### Options -/

/-- What an option means. -/
inductive Role where
  | flag
  /-- It takes a value that must pass a test. -/
  | value (accepts : String → Bool)
  | version
  | help

/-- An option. -/
structure Switch where
  letter : Char
  name : String
  role : Role

/-- What is understood at one level of the command line. -/
structure Level where
  switches : List Switch
  /-- The commands that may follow. -/
  commands : List String
  /-- Whether there is an operand. -/
  operand : Bool

/-- What has been given at one level: options by letter, with their values, and operands. -/
structure Given where
  switches : List (Char × String)
  operands : List String
  deriving DecidableEq, Repr

namespace Given

/-- Nothing. -/
def nothing : Given := ⟨[], []⟩

/-- Whether an option was given. -/
def has (given : Given) (letter : Char) : Bool := given.switches.any (·.1 = letter)

/-- The value that was given for an option. -/
def value? (given : Given) (letter : Char) : Option String :=
  (given.switches.find? (·.1 = letter)).map (·.2)

end Given

/-- How a level ends. -/
inductive Ending where
  | misuse
  | version
  | help
  | complete (given : Given)
  /-- A command starts, with the arguments behind it. -/
  | command (given : Given) (name : String) (rest : List String)

/-- What one argument comes to. -/
inductive Word where
  | ending (ending : Ending)
  | given (given : Given)
  /-- An option whose value is the next argument. -/
  | awaits (given : Given) (switch : Switch)

/-- Takes an option; a second time it does not fit. -/
def Given.take (given : Given) (switch : Switch) (value : String) : Word :=
  if given.has switch.letter then .ending .misuse
  else .given { given with switches := given.switches ++ [(switch.letter, value)] }

/-- Takes an option with a value. -/
def Given.takeValue (given : Given) (switch : Switch) (value : String) : Word :=
  match switch.role with
  | .value accepts => if accepts value then given.take switch value else .ending .misuse
  | _ => .ending .misuse

/-- Takes letters that are written together. The rest behind a letter that needs a value is its
value, with or without a sign of equality. -/
def letters (level : Level) (given : Given) : List Char → Word
  | [] => .given given
  | c :: rest =>
    match level.switches.find? (·.letter = c) with
    | none => .ending .misuse
    | some switch =>
      match switch.role with
      | .version => .ending .version
      | .help => .ending .help
      | .flag =>
        match given.take switch "" with
        | .given given => letters level given rest
        | word => word
      | .value _ =>
        match rest with
        | [] => .awaits given switch
        | '=' :: value => given.takeValue switch (String.ofList value)
        | value => given.takeValue switch (String.ofList value)

/-- Takes an option by its name, with the value behind a sign of equality if there is one. -/
def named (level : Level) (given : Given) (chars : List Char) : Word :=
  let name := chars.takeWhile (· ≠ '=')
  let attached := chars.drop name.length
  match level.switches.find? (·.name = String.ofList name) with
  | none => .ending .misuse
  | some switch =>
    match switch.role, attached with
    | .version, [] => .ending .version
    | .help, [] => .ending .help
    | .flag, [] => given.take switch ""
    | .value _, [] => .awaits given switch
    | .value _, _ :: value => given.takeValue switch (String.ofList value)
    | _, _ :: _ => .ending .misuse

/-- Takes an operand, which must not be empty. -/
def operand (level : Level) (given : Given) (argument : String) : Word :=
  if level.operand ∧ given.operands = [] ∧ argument ≠ "" then
    .given { given with operands := [argument] }
  else .ending .misuse

/-- Takes arguments that are all operands. -/
def operands (level : Level) (given : Given) : List String → Ending
  | [] => .complete given
  | argument :: rest =>
    match operand level given argument with
    | .given given => operands level given rest
    | _ => .misuse

/-- Whether an argument is written like an option. -/
def isSwitch (argument : String) : Bool :=
  argument.toList.head? = some '-' && argument ≠ "-"

/-- What an argument comes to that is no command and not `--`. -/
def word (level : Level) (given : Given) (argument : String) : Word :=
  if isSwitch argument then
    match argument.toList with
    | '-' :: '-' :: name => named level given name
    | _ :: rest => letters level given rest
    | [] => .ending .misuse
  else operand level given argument

/-- Reads the arguments of a level. -/
def scan (level : Level) (given : Given) : List String → Ending
  | [] => .complete given
  | argument :: rest =>
    if argument ∈ level.commands then .command given argument rest
    else if argument = "--" then operands level given rest
    else match word level given argument with
      | .ending ending => ending
      | .given given => scan level given rest
      | .awaits given switch =>
        match rest with
        | [] => .misuse
        | value :: rest =>
          if isSwitch value then .misuse
          else match given.takeValue switch value with
            | .given given => scan level given rest
            | _ => .misuse

/-! ### The levels -/

/-- Whether a path can be one. -/
def isPath (value : String) : Bool := value ≠ ""

/-- The format with a name. -/
def format? (value : String) : Option Format :=
  Format.all.find? fun format ↦ format.text = value

/-- The number of threads that is written so. -/
def threads? (value : String) : Option Nat := Decimal.count? value.toList

/-- The options of every level. -/
def sharedSwitches : List Switch :=
  [⟨'c', "config", .value isPath⟩, ⟨'v', "verbose", .flag⟩, ⟨'h', "help", .help⟩]

/-- The commands. -/
def commands : List String := ["init", "plan", "check", "config", "help"]

/-- The level in front of the command. -/
def top : Level := ⟨sharedSwitches ++ [⟨'V', "version", .version⟩], commands, false⟩

/-- The level behind a command with further options. -/
def behind (switches : List Switch) (operand : Bool) : Level :=
  ⟨switches ++ sharedSwitches, [], operand⟩

/-- Goes on behind a command: the options of both levels, then the action. -/
def request (above : Given) (level : Level) (rest : List String)
    (action : Given → Option Action) : Reading :=
  match scan level .nothing rest with
  | .complete given =>
    match action given with
    | some action =>
      .request ⟨(given.value? 'c').or (above.value? 'c'), given.has 'v' || above.has 'v', action⟩
    | none => .misuse
  | .version => .version
  | .help => .help
  | .misuse | .command .. => .misuse

/-- The action of a command that needs the operand. -/
def withGraph (given : Given) (action : String → Action) : Option Action :=
  given.operands.head?.map action

/-- Reads arguments. -/
def read (arguments : List String) : Reading :=
  match scan top .nothing arguments with
  | .misuse | .complete _ => .misuse
  | .version => .version
  | .help => .help
  | .command above name rest =>
    match name with
    | "init" =>
      request above (behind [⟨'f', "force", .flag⟩] false) rest fun given ↦
        some (.init (given.has 'f'))
    | "plan" =>
      let switches : List Switch :=
        [⟨'f', "format", .value fun value ↦ (format? value).isSome⟩,
          ⟨'t', "threads", .value fun value ↦ (threads? value).isSome⟩]
      request above (behind switches true) rest fun given ↦
        withGraph given (.plan · ((given.value? 'f').bind format?)
          ((given.value? 't').bind threads?))
    | "check" => request above (behind [] true) rest fun given ↦ withGraph given .check
    | "config" => request above (behind [] false) rest fun _ ↦ some .config
    | _ =>
      match rest with
      | [] => .help
      | [topic] => if topic ∈ commands then .help else .misuse
      | _ => .misuse

end Exposure.CommandLine
