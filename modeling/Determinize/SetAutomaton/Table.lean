import Determinize.SetAutomaton.Basic
import Determinize.Text.Grid

/-!
The transition table of an automaton: a row for every state and a column for every symbol. A cell
holds the state that is reached, or a dash if the symbol cannot be read; the label of the initial
state is bold and carries an arrow.
-/

namespace Determinize.SetAutomaton

open Text

variable {Q S : Type} [TotalOrd Q] [TotalOrd S] [Display Q] [Display S]

/-- The label of the row of `state`. -/
def rowLabel (a : SetAutomaton Q S) (state : StateSet Q) : Cell :=
  if state = a.initial then .bold ("→ " ++ display state) else .plain (display state)

/-- What is reached from `state` by reading `symbol`. -/
def cell (a : SetAutomaton Q S) (state : StateSet Q) (symbol : S) : Cell :=
  .plain (((a.successor? state symbol).map display).getD "-")

/-- The row of `state`, with a cell for each of `symbols`. -/
def row (a : SetAutomaton Q S) (symbols : List S) (state : StateSet Q) : List Cell :=
  a.rowLabel state :: symbols.map (a.cell state)

def table (a : SetAutomaton Q S) : Grid :=
  let symbols := a.alphabet.toList
  { header := .plain "State" :: symbols.map fun symbol => .plain (display symbol)
    rows := a.states.toList.map (a.row symbols) }

end Determinize.SetAutomaton
