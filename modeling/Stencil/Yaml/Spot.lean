/-!
# Places in a text

A file is read with every character in its place, so that a problem can be reported where it is.
Carriage returns, line feeds, both together and the next-line character are one kind of line break;
the line and the paragraph separator are line breaks that keep their identity.

`Spot.ofText` places the characters.
-/

namespace Stencil.Yaml

/-- A place in a text. Lines and columns are counted from nought. -/
structure Mark where
  line : Nat
  column : Nat
  /-- The number of characters before the place. -/
  index : Nat
  deriving DecidableEq, Repr

namespace Mark

/-- The beginning of a text. -/
def start : Mark := ⟨0, 0, 0⟩

/-- The place after one character of a line. -/
def next (m : Mark) : Mark := ⟨m.line, m.column + 1, m.index + 1⟩

/-- The place after a line break of `width` characters. -/
def nextLine (m : Mark) (width : Nat) : Mark := ⟨m.line + 1, 0, m.index + width⟩

end Mark

/-- A character in its place. -/
structure Spot where
  char : Char
  mark : Mark
  deriving DecidableEq, Repr

/-- A space or a tab. -/
def isBlank (c : Char) : Bool := c == ' ' || c == '\t'

/-- A line break, as `Spot.ofText` leaves them. -/
def isBreak (c : Char) : Bool := c == '\n' || c == '\u2028' || c == '\u2029'

/-- A blank or a line break. -/
def isSpace (c : Char) : Bool := isBlank c || isBreak c

/-- A blank, a line break or the end of the text. -/
def isSpaceOrEnd : Option Spot → Bool
  | none => true
  | some x => isSpace x.char

/-- A character that may stand in a file: all but the control characters and the two code points
that are no characters. -/
def isAllowed (c : Char) : Bool :=
  let n := c.toNat
  n == 0x09 || n == 0x0A || n == 0x0D || (0x20 ≤ n && n ≤ 0x7E) || n == 0x85 ||
    (0xA0 ≤ n && n ≤ 0xFFFD) || 0x10000 ≤ n

namespace Spot

/-- Places the characters of a text that begins at `m`. -/
def ofText (m : Mark) : List Char → List Spot
  | [] => []
  | '\r' :: '\n' :: cs => ⟨'\n', m⟩ :: ofText (m.nextLine 2) cs
  | c :: cs =>
    if c = '\r' ∨ c = '\n' ∨ c = '\x85' then ⟨'\n', m⟩ :: ofText (m.nextLine 1) cs
    else if isBreak c then ⟨c, m⟩ :: ofText (m.nextLine 1) cs
    else ⟨c, m⟩ :: ofText m.next cs

/-- The place where the line after the last one begins. -/
def stop (xs : List Spot) : Mark :=
  match xs.getLast? with
  | some x => x.mark.nextLine 1
  | none => .start

/-- The characters of a run of spots. -/
def chars (xs : List Spot) : List Char := xs.map char

/-- The text begins with the character thrice, in the first column and with nothing behind it. -/
def isRule (c : Char) : List Spot → Bool
  | x :: y :: z :: rest =>
    x.mark.column == 0 && x.char == c && y.char == c && z.char == c && isSpaceOrEnd rest.head?
  | _ => false

/-- The text begins with a line that separates documents. -/
def startsDocument (xs : List Spot) : Bool := isRule '-' xs || isRule '.' xs

end Spot

end Stencil.Yaml
