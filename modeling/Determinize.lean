import Determinize.Main
import Determinize.Random.Relation
import Determinize.Relation.Builder
import Determinize.Relation.Path
import Determinize.Proofs.Search.DepthFirst
import Determinize.Proofs.Index.Contents
import Determinize.Proofs.Relation.Invariant
import Determinize.Proofs.Relation.Closure
import Determinize.Proofs.SetAutomaton.Edges
import Determinize.Proofs.SetAutomaton.Successor
import Determinize.Proofs.SetAutomaton.Language
import Determinize.Proofs.Relation.Histories
import Determinize.Proofs.Relation.Transitions
import Determinize.Proofs.Relation.Insertions
import Determinize.Proofs.SetAutomaton.States
import Determinize.Proofs.SetAutomaton.WorkList
import Determinize.Proofs.SetAutomaton.Correspondence
import Determinize.Proofs.SetAutomaton.Renaming
import Determinize.Proofs.SetAutomaton.Frame
import Determinize.Proofs.SetAutomaton.Redeterminize
import Determinize.Proofs.Relation.Reconfiguration
import Determinize.Proofs.Relation.Building
import Determinize.Proofs.Text.Words
import Determinize.Proofs.Text.Lines
import Determinize.Proofs.TransitionList.Grammar
import Determinize.Proofs.TransitionList.FirstFault
import Determinize.Proofs.Relation.ClosureLoop
import Determinize.Proofs.SetAutomaton.Lookup
import Determinize.Proofs.Command.CommandLine
import Determinize.Proofs.Command.Conversion
import Determinize.Proofs.SetAutomaton.Printing
import Determinize.Proofs.Command.EdgeLines
import Determinize.Proofs.SetAutomaton.Schedules
import Determinize.Proofs.SetAutomaton.AccessWords
import Determinize.Proofs.SetAutomaton.Shortcuts
import Determinize.Proofs.SetAutomaton.Unions
import Determinize.Proofs.SetAutomaton.Legibility
import Determinize.Proofs.SetAutomaton.Table
import Determinize.Proofs.Relation.Inclusion
import Determinize.Proofs.Random.FloatOrder
import Determinize.Proofs.Random.Monotonicity
import Determinize.Proofs.Random.Reachability
import Determinize.Proofs.SortedSet.Canonical
import Determinize.Proofs.SetAutomaton.EdgeOrder
import Determinize.Proofs.Random.Attachment
import Determinize.Proofs.Random.Candidates
import Determinize.Proofs.Random.Shape
