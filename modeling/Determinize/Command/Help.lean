import Determinize.Command.Request

/-!
The help texts of the program and of its commands.
-/

namespace Determinize.Command

/-- The purpose of a command, as it is told in help texts. -/
def Topic.purpose : Topic → String
  | .program => "Subset construction for automata with epsilon transitions"
  | .demo => "runs the subset construction on a small example automaton"
  | .convert =>
    "reads transitions `<from> <symbol> <to>` from stdin, one per line, and determinizes them"
  | .help => "Print this message or the help of the given subcommand(s)"

/-- How the command is called. -/
def Topic.usage : Topic → String
  | .program => "nfa2dfa [OPTIONS] <COMMAND>"
  | .demo => "nfa2dfa demo [OPTIONS]"
  | .convert => "nfa2dfa convert [OPTIONS] --epsilon <epsilon> --start <start>"
  | .help => "nfa2dfa help [COMMAND]..."

/-- A heading and the entries below it, each a term and its explanation. -/
structure Section where
  heading : String
  entries : List (String × String)

/-- The explanations of all entries begin in the same column. -/
def Section.lines (s : Section) : List String :=
  let width := (s.entries.map fun entry => entry.1.length).foldl max 0
  "" :: (s.heading ++ ":") :: s.entries.map fun entry =>
    "  " ++ entry.1.pushn ' ' (width - entry.1.length) ++ "  " ++ entry.2

def tableEntry : String × String :=
  ("-t, --table", "print a transition table instead of one edge per line")

def helpEntry : String × String := ("-h, --help", "Print help")

def Topic.sections : Topic → List Section
  | .program => [
      ⟨"Commands", [
        ("demo", Topic.purpose .demo),
        ("convert", Topic.purpose .convert),
        ("help", Topic.purpose .help)]⟩,
      ⟨"Options", [
        ("-v, --verbosity[=<verbosity>]", "[possible values: info, debug, trace]"),
        helpEntry]⟩]
  | .demo => [⟨"Options", [tableEntry, helpEntry]⟩]
  | .convert => [
      ⟨"Options", [
        ("-e, --epsilon <epsilon>", "the symbol that marks epsilon transitions"),
        ("-s, --start <start>", "the state in which the construction starts"),
        tableEntry,
        helpEntry]⟩]
  | .help => [⟨"Arguments", [("[COMMAND]...", "Print help for the subcommand(s)")]⟩]

/-- The help text about a topic. -/
def Topic.helpText (topic : Topic) : String :=
  let lines := [topic.purpose, "", "Usage: " ++ topic.usage] ++ topic.sections.flatMap Section.lines
  String.join (lines.map (· ++ "\n"))

end Determinize.Command
