import Stencil.Text.Width

/-!
# Display width

On a terminal, control sequences are obeyed and not shown. A text is cut into the stretches between
its control sequences, and its display width is the sum of the columns of the stretches. What looks
like the start of a sequence but does not become one is ordinary text.
-/

namespace Stencil.Text

/-! ## 1. Control sequences -/

/-- The escape character. -/
def escape : Char := '\x1b'

/-- The character that introduces a control sequence on its own. -/
def introducer : Char := '\u009b'

/-- The character that ends a control string. -/
def terminator : Char := '\u009c'

/-- Skips an operating-system command: it ends with a bell, a terminator or an escaped backslash. -/
def skipCommand : List Char → List Char
  | [] => []
  | c :: cs =>
    if c.toNat = 7 ∨ c = terminator then cs
    else if c = escape ∧ cs.head? = some '\\' then cs.tail
    else skipCommand cs

/-- Skips a device-control string: it ends with a terminator or an escaped backslash; any other
escape takes the next character with it. -/
def skipDeviceString : List Char → List Char
  | [] => []
  | c :: cs =>
    if c = terminator then cs
    else if c = escape then
      match cs with
      | [] => []
      | d :: ds => if d = '\\' then ds else skipDeviceString ds
    else skipDeviceString cs

/-- The states of the reader of the other sequences: after the introducer, after a parenthesis,
after the designation of a character set, among prefixes, after so many digits of a parameter,
after a separator, and after the final character. -/
inductive AnsiState where
  | start
  | paren
  | charset
  | marks
  | digits (count : Nat)
  | separator
  | final
  deriving DecidableEq, Repr

namespace AnsiState

/-- A sequence may end in this state. -/
def accepts : AnsiState → Bool
  | charset | digits _ | final => true
  | _ => false

/-- Characters that end a sequence. -/
def isFinal (c : Char) : Bool :=
  ('A' ≤ c && c ≤ 'P') || c == 'R' || c == 'Z' || c == 'c' || ('f' ≤ c && c ≤ 'n') || c == 'q' ||
    c == 'r' || c == 'y' || c == '=' || c == '>' || c == '<'

/-- The state after one more character; nothing when no sequence goes on with it. A parameter has
at most five digits, and no more may follow the fifth. -/
def next? (s : AnsiState) (c : Char) : Option AnsiState :=
  if c = '(' ∨ c = ')' then
    match s with
    | start => some paren
    | paren | marks => some marks
    | _ => none
  else if c = ';' then
    match s with
    | start | paren | marks => some marks
    | digits n => if n < 5 then some separator else none
    | separator => some separator
    | _ => none
  else if c = '[' ∨ c = '#' ∨ c = '?' then
    match s with
    | start | paren | marks => some marks
    | _ => none
  else if c.isDigit then
    match s with
    | start | marks | separator => some (digits 1)
    | paren => some (if c ≤ '2' then charset else digits 1)
    | digits n => if n < 5 then some (digits (n + 1)) else none
    | _ => none
  else if isFinal c then
    match s with
    | start | paren | marks | separator => some final
    | digits n => if n < 5 then some final else none
    | _ => none
  else none

/-- Reads on as long as a sequence can go on; `best` is what follows the longest one so far. -/
def run (s : AnsiState) (best : Option (List Char)) : List Char → Option (List Char)
  | [] => best
  | c :: cs =>
    match s.next? c with
    | none => best
    | some s => run s (if s.accepts then some cs else best) cs

end AnsiState

/-- What follows the control sequence at the front of a text, if there is one. -/
def afterSequence? : List Char → Option (List Char)
  | [] => none
  | c :: cs =>
    if c = escape ∧ cs.head? = some ']' then some (skipCommand cs.tail)
    else if c = escape ∧ cs.head? = some 'P' then some (skipDeviceString cs.tail)
    else if c = escape ∨ c = introducer then AnsiState.run .start none cs
    else none

/-! ## 2. Stretches -/

/-- The stretches of a text between its control sequences; `fuel` bounds the steps, and the length
of the text is enough. `stretch` is the one being collected, backwards. -/
def stretchesFrom : (fuel : Nat) → (stretch : List Char) → List Char → List (List Char)
  | 0, stretch, cs => [stretch.reverse ++ cs]
  | _ + 1, stretch, [] => [stretch.reverse]
  | fuel + 1, stretch, c :: cs =>
    match afterSequence? (c :: cs) with
    | some rest => stretch.reverse :: stretchesFrom fuel [] rest
    | none => stretchesFrom fuel (c :: stretch) cs

/-- The stretches of a text between its control sequences. -/
def stretches (cs : List Char) : List (List Char) := stretchesFrom cs.length [] cs

/-- The columns a text takes when it is displayed. Plain ASCII takes one column a character. -/
def displayWidth (cs : List Char) : Nat :=
  if cs.all (between 0x20 0x7E) then cs.length else (stretches cs).foldl (fun n stretch => n + columns stretch) 0

end Stencil.Text
