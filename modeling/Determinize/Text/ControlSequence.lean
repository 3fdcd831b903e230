/-!
Control sequences of terminals. An escape character begins one; the characters behind it decide
where it ends and what it is for. `pieces` cuts a text into what a terminal shows and the
sequences between.

A control character inside a sequence is acted upon at once and counts as text, and so does one
that cancels the sequence. What a terminal shows is known by its size alone: it is taken from the
front of what was read since the last sequence, and the rest of that is the next sequence. A
sequence that is cancelled, malformed or unfinished is not cut out; it stays with what is around
it.
-/

namespace Determinize.Text

/-- The character that begins a control sequence. -/
def escapeChar : Char := '\x1b'

/-- Characters that cancel a sequence. -/
def isCancel (c : Char) : Bool := c = '\x18' || c = '\x1a'

/-- The byte that ends a message to the device. -/
def messageEnd : UInt8 := 0x9C

/-! ### Reading -/

/-- How far the parameters of a sequence have been read: signs such as `!` stand behind all
numbers, and one of `<`, `=`, `>` and `?` can stand before them. -/
inductive Parameters where
  | begun
  | numbers
  | signs
  deriving DecidableEq, Repr

/-- How parameters go on with `c`, a character from the blank to `?`, or `none` if it is out of
place. -/
def Parameters.next? (parameters : Parameters) (c : Char) : Option Parameters :=
  if c ≤ '/' then some .signs
  else if c ≤ ';' then if parameters = .signs then none else some .numbers
  else if parameters = .begun then some .numbers
  else none

/-- What a terminal is reading. -/
inductive Reading where
  /-- Text. -/
  | text
  /-- The character behind an escape character. -/
  | escape
  /-- Signs behind an escape character, which one more character ends. -/
  | escapeSigns
  /-- A sequence with parameters, with the number of its signs and of its separators. -/
  | control (parameters : Parameters) (signs separators : Nat)
  /-- A sequence whose parameters are malformed. -/
  | malformed
  /-- A command to the system, which a bell ends. -/
  | command
  /-- The parameters of a message to the device. -/
  | header (parameters : Parameters)
  /-- A message to the device, which nothing but its byte ends. -/
  | message
  deriving DecidableEq, Repr

/-- What a sequence is for. -/
inductive Purpose where
  | style
  | other
  deriving DecidableEq, Repr

/-- What a terminal does with one character. -/
structure Step where
  /-- What it reads next. -/
  next : Reading
  /-- The bytes of text that it has to show. -/
  bytes : Nat
  /-- What a sequence that ends here is for. -/
  ended : Option Purpose
  deriving DecidableEq, Repr

/-- A character that is read and shows nothing. -/
def Step.silent (next : Reading) : Step := ⟨next, 0, none⟩

/-- A character that ends a sequence. -/
def Step.last (purpose : Purpose) : Step := ⟨.text, 0, some purpose⟩

namespace Reading

/-- What a sequence is for that ends when another one begins or cancels it. -/
def interrupted? : Reading → Option Purpose
  | .command => some .other
  | _ => none

/-- What the character after an escape character does. -/
def afterEscape (c : Char) : Step :=
  if c ≤ '/' then .silent .escapeSigns
  else if c = '[' then .silent (.control .begun 0 0)
  else if c = ']' then .silent .command
  else if c = 'P' then .silent (.header .begun)
  else if c = 'X' || c = '^' || c = '_' then .silent .message
  else .last .other

/-- What a character of a sequence with parameters does. At the end, a sequence with two signs or
more than 32 parameters is malformed; one without signs that ends in `m` is for the style. -/
def inControl (parameters : Parameters) (signs separators : Nat) (c : Char) : Step :=
  if '@' ≤ c then
    if 1 < signs || 32 ≤ separators then .silent .text
    else if c = 'm' && signs = 0 then .last .style
    else .last .other
  else
    let isSign := c ≤ '/' || '<' ≤ c
    let isSeparator := c = ':' || c = ';'
    match parameters.next? c with
    | some parameters =>
      .silent (.control parameters (if isSign then signs + 1 else signs)
        (if isSeparator then separators + 1 else separators))
    | none => .silent .malformed

/-- What a printable ASCII character does behind an escape character. -/
def inSequence (reading : Reading) (c : Char) : Step :=
  match reading with
  | .escape => afterEscape c
  | .escapeSigns => if c ≤ '/' then .silent .escapeSigns else .last .other
  | .control parameters signs separators => inControl parameters signs separators c
  | _ => .silent (if '@' ≤ c then .text else reading)

/-- What a terminal does with `c`. The delete character and those beyond ASCII change nothing
inside a sequence, except that a message ends with its byte, also inside a character. -/
def step (reading : Reading) (c : Char) : Step :=
  if isCancel c then ⟨.text, 1, reading.interrupted?⟩
  else if c = escapeChar then ⟨.escape, 0, reading.interrupted?⟩
  else
    match reading with
    | .text => ⟨.text, c.utf8Size, none⟩
    | .command => if c = '\x07' then .last .other else .silent .command
    | .message =>
      .silent (if (String.utf8EncodeChar c).contains messageEnd then .text else .message)
    | .header parameters =>
      if c < ' ' || '~' < c then .silent reading
      else if '@' ≤ c then .silent .message
      else .silent (((parameters.next? c).map Reading.header).getD .message)
    | _ =>
      if c < ' ' then ⟨reading, 1, none⟩
      else if '~' < c then .silent reading
      else reading.inSequence c

end Reading

/-! ### Pieces -/

/-- A part of a text: what a terminal shows, or a control sequence. -/
inductive Piece where
  | shown (text : List Char)
  | sequence (purpose : Purpose) (text : List Char)
  deriving DecidableEq, Repr

/-- The characters within the first `bytes` bytes of a text, and the others. -/
def splitBytes (bytes : Nat) : List Char → List Char × List Char
  | [] => ([], [])
  | c :: rest =>
    if c.utf8Size ≤ bytes then
      let (within, beyond) := splitBytes (bytes - c.utf8Size) rest
      (c :: within, beyond)
    else ([], c :: rest)

/-- The pieces of the rest of a text. Since the last sequence `bytes` bytes are to be shown and
`read` has been read, its last character first. -/
def piecesFrom (reading : Reading) (bytes : Nat) (read : List Char) : List Char → List Piece
  | [] => if bytes = 0 then [.sequence .other read.reverse] else [.shown read.reverse]
  | c :: rest =>
    let step := reading.step c
    let bytes := bytes + step.bytes
    match step.ended with
    | none => piecesFrom step.next bytes (c :: read) rest
    | some purpose =>
      let (text, sequence) := splitBytes bytes (c :: read).reverse
      .shown text :: .sequence purpose sequence :: piecesFrom step.next 0 [] rest

def pieces (text : List Char) : List Piece := piecesFrom .text 0 [] text

end Determinize.Text
