/-!
Options on a command line, in the usual short and long forms. `scan` reads options up to the
first argument that is none, and stops at a request for help, so that nothing behind it matters.

Short options may be written together behind one dash; one that has a value takes the rest of
its argument or else the next argument. The value of a long option follows an equals sign or is
the next argument. An argument that looks like an option is never a value, but a lone dash is.
-/

namespace Determinize.Command

/-- The options of all commands. -/
inductive Key where
  | help
  | verbosity
  | table
  | epsilon
  | start
  deriving DecidableEq, Repr

/-- Whether an option has a value. A value that is optional can only be attached by an equals
sign. -/
inductive Arity where
  | flag
  | value
  | optionalValue
  deriving DecidableEq, Repr

/-- How an option is written. -/
structure OptionForm where
  key : Key
  short : Char
  long : String
  arity : Arity

/-- An option as it was given, with its value if it has one. -/
structure Given where
  key : Key
  value : Option String
  deriving DecidableEq, Repr

/-- What can be wrong with a command line. -/
inductive UsageError where
  | unknownOption (text : String)
  | unexpectedArgument (text : String)
  | unexpectedValue (key : Key)
  | missingValue (key : Key)
  | badValue (key : Key) (text : String)
  | repeatedOption (key : Key)
  | missingOption (key : Key)
  | missingCommand
  | unknownCommand (name : String)
  deriving DecidableEq, Repr

/-- The name of an option in messages. -/
def Key.name : Key → String
  | .help => "--help"
  | .verbosity => "--verbosity"
  | .table => "--table"
  | .epsilon => "--epsilon"
  | .start => "--start"

def UsageError.message : UsageError → String
  | .unknownOption text => "error: there is no option " ++ text
  | .unexpectedArgument text => "error: unexpected argument " ++ text
  | .unexpectedValue key => "error: " ++ key.name ++ " has no value"
  | .missingValue key => "error: " ++ key.name ++ " lacks its value"
  | .badValue key text => "error: " ++ text ++ " is no value of " ++ key.name
  | .repeatedOption key => "error: " ++ key.name ++ " is given more than once"
  | .missingOption key => "error: " ++ key.name ++ " is required"
  | .missingCommand => "error: a command is required"
  | .unknownCommand name => "error: there is no command " ++ name

/-- What an argument looks like. -/
inductive Shape where
  | terminator
  | long (name : String) (value : Option String)
  | short (letters : List Char)
  | word
  deriving DecidableEq, Repr

/-- The name and the value of a long option, which is divided by its first equals sign. -/
def splitLong (text : List Char) : Shape :=
  .long (String.ofList (text.takeWhile (· ≠ '='))) <|
    match text.dropWhile (· ≠ '=') with
    | [] => none
    | _ :: value => some (String.ofList value)

def shape (argument : String) : Shape :=
  match argument.toList with
  | ['-', '-'] => .terminator
  | '-' :: '-' :: text => splitLong text
  | '-' :: c :: letters => .short (c :: letters)
  | _ => .word

/-- A value that is attached to a short option, with or without an equals sign. -/
def attached : List Char → String
  | '=' :: value => String.ofList value
  | value => String.ofList value

/-- What a group of short options or one long option says: the options given, and the option
whose value is the next argument, if there is one. -/
structure Piece where
  given : List Given
  pending : Option Key

def Piece.cons (g : Given) (p : Piece) : Piece := { p with given := g :: p.given }

section

variable (forms : List OptionForm)

/-- Reads a group of short options. -/
def readShort : List Char → Except UsageError Piece
  | [] => .ok ⟨[], none⟩
  | c :: rest =>
    match forms.find? fun form => form.short = c with
    | none => .error (.unknownOption (String.ofList ['-', c]))
    | some form =>
      match form.arity, rest with
      | .flag, _ =>
        if form.key = .help then .ok ⟨[⟨.help, none⟩], none⟩
        else (Piece.cons ⟨form.key, none⟩) <$> readShort rest
      | .optionalValue, '=' :: value => .ok ⟨[⟨form.key, some (String.ofList value)⟩], none⟩
      | .optionalValue, _ => (Piece.cons ⟨form.key, none⟩) <$> readShort rest
      | .value, [] => .ok ⟨[], some form.key⟩
      | .value, _ => .ok ⟨[⟨form.key, some (attached rest)⟩], none⟩

/-- Reads a long option. -/
def readLong (name : String) (value : Option String) : Except UsageError Piece :=
  match forms.find? fun form => form.long = name with
  | none => .error (.unknownOption ("--" ++ name))
  | some form =>
    match form.arity, value with
    | .flag, some _ => .error (.unexpectedValue form.key)
    | .value, none => .ok ⟨[], some form.key⟩
    | _, _ => .ok ⟨[⟨form.key, value⟩], none⟩

/-- The options that an argument holds; a word and the terminator `--` are none. -/
def readArgument (argument : String) : Except UsageError (Option Piece) :=
  match shape argument with
  | .terminator => .ok none
  | .word => .ok none
  | .short letters => (readShort forms letters).map some
  | .long name value => (readLong forms name value).map some

/-- A text that can be a value although it is an argument of its own. -/
def isValue (argument : String) : Bool := shape argument = .word

/-- Puts options in front of what was scanned behind them. -/
def prepend (given : List Given) :
    Except UsageError (List Given × List String) → Except UsageError (List Given × List String)
  | .ok (later, words) => .ok (given ++ later, words)
  | .error e => .error e

/-- The options at the front of some arguments, and the arguments behind them. -/
def scan : List String → Except UsageError (List Given × List String)
  | [] => .ok ([], [])
  | argument :: rest =>
    match readArgument forms argument with
    | .error e => .error e
    | .ok none =>
      if argument = "--" then
        match rest with
        | [] => .ok ([], [])
        | extra :: _ => .error (.unexpectedArgument extra)
      else .ok ([], argument :: rest)
    | .ok (some piece) =>
      if piece.given.any fun g => g.key = .help then .ok (piece.given, [])
      else
        match piece.pending with
        | none => prepend piece.given (scan rest)
        | some key =>
          match rest with
          | [] => .error (.missingValue key)
          | value :: rest =>
            if isValue value then prepend (piece.given ++ [⟨key, some value⟩]) (scan rest)
            else .error (.missingValue key)

end

end Determinize.Command
