import Determinize.Command.Options
import Determinize.Log

/-!
What can be asked of the program. `Request.ofArguments` reads a command line: options of the
program itself, the name of a command, and the options of that command. The first mistake decides
about the usage error, but a request for help in front of it is granted.
-/

namespace Determinize.Command

/-- The commands, and the program itself, as subjects of help texts. -/
inductive Topic where
  | program
  | demo
  | convert
  | help
  deriving DecidableEq, Repr

/-- What the program shall do. -/
inductive Task where
  | demo (table : Bool)
  | convert (epsilon : Char) (start : String) (table : Bool)
  deriving DecidableEq, Repr

/-- A request for a help text, or for a task whose log is kept down to some level. -/
inductive Request where
  | help (topic : Topic)
  | perform (limit : Level) (task : Task)
  deriving DecidableEq, Repr

/-! ### The options of each command -/

def helpForm : OptionForm := ⟨.help, 'h', "help", .flag⟩

def tableForm : OptionForm := ⟨.table, 't', "table", .flag⟩

def programForms : List OptionForm :=
  [⟨.verbosity, 'v', "verbosity", .optionalValue⟩, helpForm]

def demoForms : List OptionForm := [tableForm, helpForm]

def convertForms : List OptionForm :=
  [⟨.epsilon, 'e', "epsilon", .value⟩, ⟨.start, 's', "start", .value⟩, tableForm, helpForm]

/-! ### Settings -/

/-- What has been set by options so far. -/
structure Settings where
  limit : Option Level := none
  table : Bool := false
  epsilon : Option Char := none
  start : Option String := none
  help : Bool := false
  deriving DecidableEq, Repr

/-- The levels to which the log can be kept down on request. -/
def levelOfName? : String → Option Level
  | "info" => some .info
  | "debug" => some .debug
  | "trace" => some .trace
  | _ => none

def singleChar? (text : String) : Option Char :=
  match text.toList with
  | [c] => some c
  | _ => none

namespace Settings

/-- Applies one option. Every option may be given once. -/
def set (s : Settings) (g : Given) : Except UsageError Settings :=
  let text := g.value.getD ""
  match g.key with
  | .help => .ok { s with help := true }
  | .table => if s.table then .error (.repeatedOption .table) else .ok { s with table := true }
  | .verbosity =>
    if s.limit.isSome then .error (.repeatedOption .verbosity)
    else
      match levelOfName? (g.value.getD "info") with
      | some level => .ok { s with limit := some level }
      | none => .error (.badValue .verbosity text)
  | .epsilon =>
    if s.epsilon.isSome then .error (.repeatedOption .epsilon)
    else
      match singleChar? text with
      | some c => .ok { s with epsilon := some c }
      | none => .error (.badValue .epsilon text)
  | .start =>
    if s.start.isSome then .error (.repeatedOption .start)
    else .ok { s with start := some text }

/-- The settings at the front of some arguments, and the arguments behind them. -/
def ofArguments (forms : List OptionForm) (arguments : List String) :
    Except UsageError (Settings × List String) := do
  let (given, words) ← scan forms arguments
  let settings ← given.foldlM set {}
  return (settings, words)

end Settings

/-! ### Requests -/

/-- The settings of a command, which takes options only. -/
def commandSettings (forms : List OptionForm) (arguments : List String) :
    Except UsageError Settings := do
  match ← Settings.ofArguments forms arguments with
  | (settings, []) => return settings
  | (_, extra :: _) => throw (.unexpectedArgument extra)

def demoRequest (limit : Level) (arguments : List String) : Except UsageError Request := do
  let settings ← commandSettings demoForms arguments
  if settings.help then return .help .demo
  return .perform limit (.demo settings.table)

def convertRequest (limit : Level) (arguments : List String) : Except UsageError Request := do
  let settings ← commandSettings convertForms arguments
  if settings.help then return .help .convert
  match settings.epsilon, settings.start with
  | some epsilon, some start => return .perform limit (.convert epsilon start settings.table)
  | none, _ => throw (.missingOption .epsilon)
  | some _, none => throw (.missingOption .start)

def helpRequest : List String → Except UsageError Request
  | [] => .ok (.help .program)
  | ["demo"] => .ok (.help .demo)
  | ["convert"] => .ok (.help .convert)
  | ["help"] => .ok (.help .help)
  | name :: _ => .error (.unknownCommand name)

/-- The request that a command line makes. The log is kept down to warnings unless the command
line says otherwise. -/
def Request.ofArguments (arguments : List String) : Except UsageError Request := do
  let (settings, words) ← Settings.ofArguments programForms arguments
  if settings.help then return .help .program
  let limit := settings.limit.getD .warn
  match words with
  | [] => throw .missingCommand
  | "demo" :: rest => demoRequest limit rest
  | "convert" :: rest => convertRequest limit rest
  | "help" :: rest => helpRequest rest
  | name :: _ => throw (.unknownCommand name)

end Determinize.Command
