import Determinize.Command.Help
import Determinize.Demo
import Determinize.SetAutomaton.Table
import Determinize.TransitionList

/-!
What the program does for a command line and an input: its exit code, its output and its log.
Only the time that a construction takes is left open; it is told when the log is written.
-/

namespace Determinize.Command

/-- What the program reports about its work. -/
inductive Notice where
  | loggingSet (limit : Level)
  | readingInput
  | inputRead (transitions states : Nat)
  | relationEvent (record : Record)
  | constructed
  | failed (message : String)
  deriving DecidableEq, Repr

namespace Notice

/-- The name of a level in the message that announces it. -/
def levelName : Level → String
  | .error => "error"
  | .warn => "warn"
  | .info => "info"
  | .debug => "debug"
  | .trace => "trace"

/-- A notice as a line of the log; `elapsed` is the time that the construction took, in
microseconds. -/
def record (elapsed : String) : Notice → Record
  | .loggingSet limit => ⟨.trace, "setup " ++ levelName limit ++ " logging"⟩
  | .readingInput => ⟨.debug, "reading transitions from stdin"⟩
  | .inputRead n m =>
    ⟨.debug, "read " ++ n.repr ++ " transitions over " ++ m.repr ++ " states"⟩
  | .relationEvent record => record
  | .constructed => ⟨.info, "subset construction took " ++ elapsed ++ "µs"⟩
  | .failed message => ⟨.error, message⟩

def level (n : Notice) : Level := (n.record "").level

def ofEvents {Q S : Type} [TotalOrd Q] [Inspect Q] [Inspect S] (events : List (Event Q S)) :
    List Notice :=
  events.map fun e => .relationEvent e.record

end Notice

/-- What the program leaves behind. -/
structure Outcome where
  exitCode : Nat
  output : String
  notices : List Notice
  deriving DecidableEq, Repr

/-- The automaton as text, either as a table or with one line for every edge. -/
def printAutomaton {Q S : Type} [TotalOrd Q] [TotalOrd S] [Display Q] [Display S]
    (automaton : SetAutomaton Q S) (table : Bool) : String :=
  if table then automaton.table.draw ++ "\n" else display automaton

/-- The outcome of the construction from `start`. -/
def construct {Q S : Type} [TotalOrd Q] [TotalOrd S] [Display Q] [Display S] [Inspect Q]
    [Inspect S] (r : Relation Q S) (start : Q) (table : Bool) : Outcome where
  exitCode := 0
  output := printAutomaton (r.determinize start) table
  notices := Notice.ofEvents (r.determinizeEvents start) ++ [.constructed]

/-- Puts notices in front of those of an outcome. -/
def Outcome.after (earlier : List Notice) (o : Outcome) : Outcome :=
  { o with notices := earlier ++ o.notices }

def runDemo (table : Bool) : Outcome :=
  (construct Demo.relation Demo.start table).after
    (Notice.ofEvents (Demo.empty.addManyEvents Demo.transitions))

def runConvert (epsilon : Char) (start : String) (table : Bool) (input : List UInt8) : Outcome :=
  let reading := TransitionList.read input
  let empty : Relation String Char := Relation.withEpsilon epsilon
  let notices := .readingInput :: Notice.ofEvents (empty.addManyEvents reading.transitions)
  match reading.failure with
  | some e => ⟨1, "", notices ++ [.failed e.message]⟩
  | none =>
    let r := empty.addMany reading.transitions
    (construct r start table).after (notices ++ [.inputRead r.transitions r.states.size])

def Task.run (task : Task) (input : List UInt8) : Outcome :=
  match task with
  | .demo table => runDemo table
  | .convert epsilon start table => runConvert epsilon start table input

/-- Answers a request. Notices that are less urgent than the limit are left out. -/
def Request.run (request : Request) (input : List UInt8) : Outcome :=
  match request with
  | .help topic => ⟨0, topic.helpText, []⟩
  | .perform limit task =>
    let o := (task.run input).after [.loggingSet limit]
    { o with notices := o.notices.filter fun n => n.level.shownAt limit }

/-- The outcome for a command line. A usage error is no matter for the log. -/
def run (arguments : List String) (input : List UInt8) : Outcome :=
  match Request.ofArguments arguments with
  | .error _ => ⟨2, "", []⟩
  | .ok request => request.run input

end Determinize.Command
