import CronCalendar.Text.Decimal

/-!
# Arguments

The grammar of the command line: a command, its options with a value each, and its operands. An
option is `--name value` or `--name=value`, or `-n value`, `-nvalue` or `-n=value` if it has a
letter. Behind a double dash everything is an operand. Faults are found from left to right, and
a request for help or for the version counts where it stands.
-/

namespace CronCalendar.CommandLine
set_option autoImplicit false

/-- What the command line can ask for. -/
inductive Command where
  /-- The next runs of a schedule line or a task. -/
  | next (line task : Option String) (count : Nat) (zone start : Option String)
  /-- Whether a schedule line can run. -/
  | check (line : String)
  /-- The listing of tasks. -/
  | tasks
  | enable (taskId : String)
  | disable (taskId : String)
  | reset (taskId : String)
  /-- The issues of the settings. -/
  | validateSettings
  /-- The settings with everything written out. -/
  | showSettings
  deriving DecidableEq, Repr

/-- What some arguments ask for. -/
inductive Request where
  | run (c : Command)
  | help
  | version
  deriving DecidableEq, Repr

/-- Why arguments are not understood. -/
inductive UsageError where
  | noCommand
  | unexpected (argument : String)
  | noValue (option : String)
  | repeated (option : String)
  | notCount (text : String)
  | noOperand
  | conflict (option : String)
  deriving DecidableEq, Repr

/-- The message that tells a fault. -/
def UsageError.message : UsageError → String
  | noCommand => "a command is required"
  | unexpected argument => "unexpected argument '" ++ argument ++ "'"
  | noValue option => "a value is required for '--" ++ option ++ "'"
  | repeated option => "'--" ++ option ++ "' cannot be used more than once"
  | notCount text => "'" ++ text ++ "' is not a count"
  | noOperand => "a required argument was not provided"
  | conflict option => "'--" ++ option ++ "' cannot be used with a cron line"

/-- A count: digits, with or without a plus sign, that fit into sixty-four bits. -/
def count? (text : String) : Option Nat :=
  let ds := match text.toList with
    | '+' :: rest => rest
    | cs => cs
  if !ds.isEmpty && ds.all Char.isDigit && decide (Decimal.value ds < Nat.pow 2 64) then
    some (Decimal.value ds)
  else none

/-- What a command takes: options by name, those of which have a letter, which take a count, and
the number of operands. -/
structure Form where
  options : List String := []
  letters : List (Char × String) := []
  counts : List String := []
  operands : Nat := 0

/-- What has been read of the arguments of a command. -/
structure Scan where
  /-- The option that the next argument is the value of. -/
  pending : Option String := none
  /-- The values of options, the latest first. -/
  values : List (String × String) := []
  operands : List String := []
  /-- A double dash has been read. -/
  onlyOperands : Bool := false

/-- What an argument comes to: more to read, or a request for help. -/
inductive Progress where
  | more (s : Scan)
  | help

namespace Scan

/-- Takes the value of an option. -/
def setValue (f : Form) (s : Scan) (option value : String) : Except UsageError Scan :=
  if (s.values.lookup option).isSome then .error (.repeated option)
  else if f.counts.contains option && (count? value).isNone then .error (.notCount value)
  else .ok { s with pending := none, values := (option, value) :: s.values }

/-- Takes an operand. -/
def addOperand (f : Form) (s : Scan) (operand : String) : Except UsageError Scan :=
  if s.operands.length < f.operands then .ok { s with operands := s.operands ++ [operand] }
  else .error (.unexpected operand)

/-- Takes an option with the value attached to it, or without one. -/
def addOption (f : Form) (s : Scan) (argument option : String) (value : Option String) :
    Except UsageError Progress :=
  if f.options.contains option then
    match value with
    | some value => (s.setValue f option value).map .more
    | none =>
      if (s.values.lookup option).isSome then .error (.repeated option)
      else .ok (.more { s with pending := some option })
  else .error (.unexpected argument)

/-- Takes an argument that starts with two dashes, from behind them. -/
def addLong (f : Form) (s : Scan) (argument : String) (cs : List Char) :
    Except UsageError Progress :=
  let name := String.ofList (cs.takeWhile (· != '='))
  match cs.dropWhile (· != '=') with
  | [] => if name = "help" then .ok .help else s.addOption f argument name none
  | _ :: value => s.addOption f argument name (some (String.ofList value))

/-- Takes an argument that starts with one dash, from behind it. -/
def addShort (f : Form) (s : Scan) (argument : String) : List Char → Except UsageError Progress
  | [] => (s.addOperand f argument).map .more
  | letter :: rest =>
    match f.letters.lookup letter with
    | some option =>
      match rest with
      | [] => s.addOption f argument option none
      | '=' :: value => s.addOption f argument option (some (String.ofList value))
      | value => s.addOption f argument option (some (String.ofList value))
    | none => if letter = 'h' then .ok .help else .error (.unexpected argument)

/-- Takes an argument of a command. -/
def add (f : Form) (s : Scan) (argument : String) : Except UsageError Progress :=
  if s.onlyOperands then (s.addOperand f argument).map .more
  else
    match s.pending, argument.toList with
    | some option, '-' :: _ :: _ => .error (.noValue option)
    | some option, _ => (s.setValue f option argument).map .more
    | none, ['-', '-'] => .ok (.more { s with onlyOperands := true })
    | none, '-' :: '-' :: cs => s.addLong f argument cs
    | none, '-' :: cs => s.addShort f argument cs
    | none, _ => (s.addOperand f argument).map .more

/-- Takes the arguments of a command. -/
def addAll (f : Form) (s : Scan) : List String → Except UsageError Progress
  | [] =>
    match s.pending with
    | some option => .error (.noValue option)
    | none => .ok (.more s)
  | argument :: rest =>
    match s.add f argument with
    | .error e => .error e
    | .ok .help => .ok .help
    | .ok (.more s) => addAll f s rest

/-- The value of an option. -/
def value? (s : Scan) (option : String) : Option String := s.values.lookup option

end Scan

/-- Reads the arguments of a command and makes a command of them. -/
def readWith (f : Form) (arguments : List String) (make : Scan → Except UsageError Command) :
    Except UsageError Request :=
  match Scan.addAll f {} arguments with
  | .error e => .error e
  | .ok .help => .ok .help
  | .ok (.more s) => (make s).map .run

/-- Reads the arguments of a command that takes one operand. -/
def readOperand (make : String → Command) (arguments : List String) : Except UsageError Request :=
  readWith { operands := 1 } arguments fun s =>
    match s.operands with
    | operand :: _ => .ok (make operand)
    | [] => .error .noOperand

/-- Reads the arguments of a command that takes nothing. -/
def readNothing (c : Command) (arguments : List String) : Except UsageError Request :=
  readWith {} arguments fun _ => .ok c

/-- What the command for the next runs takes. -/
def nextForm : Form where
  options := ["task", "count", "tz", "from"]
  letters := [('n', "count")]
  counts := ["count"]
  operands := 1

/-- Reads the arguments of the command for the next runs. -/
def readNext (arguments : List String) : Except UsageError Request :=
  readWith nextForm arguments fun s =>
    let line := s.operands.head?
    let task := s.value? "task"
    let count := ((s.value? "count").bind count?).getD 5
    if line.isSome && task.isSome then .error (.conflict "task")
    else .ok (.next line task count (s.value? "tz") (s.value? "from"))

/-- Whether an argument asks for help. -/
def asksHelp (argument : String) : Bool :=
  argument == "--help" || argument.toList.take 2 == ['-', 'h']

/-- Whether an argument asks for the version. -/
def asksVersion (argument : String) : Bool :=
  argument == "--version" || argument.toList.take 2 == ['-', 'V']

/-- The commands that work on the settings. -/
def settingsCommands : List (String × Command) :=
  [("validate", .validateSettings), ("show", .showSettings)]

/-- Reads the arguments of the commands that work on the settings. -/
def readSettings : List String → Except UsageError Request
  | [] => .error .noCommand
  | "help" :: [] => .ok .help
  | "help" :: [name] =>
    if name = "help" ∨ (settingsCommands.lookup name).isSome then .ok .help
    else .error (.unexpected name)
  | name :: rest =>
    if asksHelp name then .ok .help
    else
      match settingsCommands.lookup name with
      | some c => readNothing c rest
      | none => .error (.unexpected name)

/-- How the arguments of each command are read. -/
def commands : List (String × (List String → Except UsageError Request)) :=
  [("next", readNext), ("check", readOperand .check), ("tasks", readNothing .tasks),
    ("enable", readOperand .enable), ("disable", readOperand .disable),
    ("reset", readOperand .reset), ("config", readSettings)]

/-- Reads the names behind a request for help: those of a command. -/
def readHelp : List String → Except UsageError Request
  | [] => .ok .help
  | [name] =>
    if name = "help" ∨ (commands.lookup name).isSome then .ok .help else .error (.unexpected name)
  | "config" :: [name] =>
    if name = "help" ∨ (settingsCommands.lookup name).isSome then .ok .help
    else .error (.unexpected name)
  | _ :: name :: _ => .error (.unexpected name)

/-- Reads the arguments of the command line. -/
def read : List String → Except UsageError Request
  | [] => .error .noCommand
  | "help" :: rest => readHelp rest
  | name :: rest =>
    if asksHelp name then .ok .help
    else if asksVersion name then .ok .version
    else
      match commands.lookup name with
      | some readRest => readRest rest
      | none => .error (.unexpected name)

end CronCalendar.CommandLine
