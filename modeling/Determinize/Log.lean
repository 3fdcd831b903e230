import Determinize.Relation.History
import Determinize.SetAutomaton.Construction
import Determinize.Text.ControlCode

/-!
What happens while relations are built and determinized, as a list of events. An operation and
the events it causes are two functions of the same arguments, so the operation itself stays free
of logging. `Event.message` is the only place where the wording of an event is decided.
-/

namespace Determinize

/-- How urgent an event is, from the most to the least urgent. -/
inductive Level where
  | error
  | warn
  | info
  | debug
  | trace
  deriving DecidableEq, Repr

namespace Level

/-- The place of a level, the most urgent one being first. -/
def rank : Level → Nat
  | .error => 0
  | .warn => 1
  | .info => 2
  | .debug => 3
  | .trace => 4

def name : Level → String
  | .error => "ERROR"
  | .warn => "WARN"
  | .info => "INFO"
  | .debug => "DEBUG"
  | .trace => "TRACE"

/-- A log that is kept down to level `limit` shows events of this level. -/
def shownAt (level limit : Level) : Bool := level.rank ≤ limit.rank

end Level

/-- One entry of a log. -/
structure Record where
  level : Level
  message : String
  deriving DecidableEq, Repr

/-- An entry as a line of the log. -/
def Record.line (record : Record) : String :=
  record.level.name ++ " " ++ Text.withoutControls record.message

/-- What can happen to a relation over states `Q` and symbols `S`. -/
inductive Event (Q S : Type) [TotalOrd Q] where
  | adding (transition : Transition Q S)
  | addingEpsilon (source target : Q)
  | refusedEpsilon (symbol : S) (transitions : Nat)
  | found (edge : Edge Q S)
  | determinized (start : Q) (stateSets edges : Nat)
  | generated (size transitions : Nat)

namespace Event

variable {Q S : Type} [TotalOrd Q]

def level : Event Q S → Level
  | .adding _ => .trace
  | .addingEpsilon _ _ => .trace
  | .refusedEpsilon _ _ => .warn
  | .found _ => .trace
  | .determinized _ _ _ => .debug
  | .generated _ _ => .debug

/-- An arrow that carries a label. -/
def arrow (source label target : String) : String :=
  source ++ " --" ++ label ++ "--> " ++ target

variable [Inspect Q] [Inspect S]

def message : Event Q S → String
  | .adding t =>
    "adding transition " ++ arrow (inspect t.source) (inspect t.symbol) (inspect t.target)
  | .addingEpsilon source target =>
    "adding epsilon transition " ++ inspect source ++ " --> " ++ inspect target
  | .refusedEpsilon symbol n =>
    "refusing to set epsilon symbol to " ++ inspect symbol ++ " with " ++ n.repr ++
      " transitions present"
  | .found e => arrow (inspect e.source) (inspect e.symbol) (inspect e.target)
  | .determinized start n m =>
    "subset construction from " ++ inspect start ++ " produced " ++ n.repr ++
      " state sets and " ++ m.repr ++ " edges"
  | .generated size n =>
    "generated random relation with " ++ size.repr ++ " states and " ++ n.repr ++ " transitions"

def record (e : Event Q S) : Record := ⟨e.level, e.message⟩

end Event

namespace Relation

variable {Q S : Type} [TotalOrd Q] [TotalOrd S]

/-! ### The events of each operation -/

/-- What happens when `t` is added. -/
def addEvent (r : Relation Q S) (t : Transition Q S) : Event Q S :=
  if r.isEpsilon t.symbol then .addingEpsilon t.source t.target else .adding t

/-- What happens when transitions are added. The epsilon symbol stays the same meanwhile. -/
def addManyEvents (r : Relation Q S) (ts : List (Transition Q S)) : List (Event Q S) :=
  ts.map r.addEvent

/-- What happens when an edit is carried out; only a refused choice of the epsilon symbol is
reported. -/
def editEvents (r : Relation Q S) : Edit Q S → List (Event Q S)
  | .add t => [r.addEvent t]
  | .addEpsilon source target => [.addingEpsilon source target]
  | .setEpsilon symbol =>
    match r.setEpsilon symbol with
    | .ok _ => []
    | .error _ => [.refusedEpsilon symbol r.transitions]

def replayEvents (r : Relation Q S) : List (Edit Q S) → List (Event Q S)
  | [] => []
  | e :: edits => r.editEvents e ++ (r.edit e).replayEvents edits

/-- What happens in the subset construction: every edge that is found, and a summary. -/
def determinizeEvents (r : Relation Q S) (start : Q) : List (Event Q S) :=
  let automaton := r.determinize start
  (r.discoveries start).map .found ++
    [.determinized start automaton.states.size automaton.edges.size]

end Relation

end Determinize
