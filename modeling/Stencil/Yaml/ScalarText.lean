import Stencil.Numeric.Radix
import Stencil.Yaml.Spot

/-!
# The texts of scalars

A scalar is written plainly, in quotes, or as a block of lines. Plain and quoted scalars may go on
over several lines: between two words the first line break counts as a space, unless more follow,
and then it counts for nothing (`Gap.text`). The lines of a block scalar are kept (literal) or
joined in the same way (folded), and its last line breaks are clipped, stripped or kept.

Each function reads a text from the front of the spots and gives the rest, or nothing when the text
breaks a rule.
-/

namespace Stencil.Yaml

open Numeric

/-- How a scalar is written. -/
inductive ScalarStyle where
  | plain
  | singleQuoted
  | doubleQuoted
  | literal
  | folded
  deriving DecidableEq, Repr

/-! ## 1. Gaps -/

/-- The white space between two words: the blanks before the first line break, and the line
breaks. -/
structure Gap where
  blanks : List Char
  breaks : List Char
  deriving DecidableEq, Repr

namespace Gap

/-- The gap goes over a line break. -/
def isBroken (g : Gap) : Bool := !g.breaks.isEmpty

/-- What a gap stands for. -/
def text (g : Gap) : List Char :=
  match g.breaks with
  | [] => g.blanks
  | ['\n'] => [' ']
  | '\n' :: more => more
  | breaks => breaks

/-- Reads a gap. Blanks after a line break are dropped, but a tab among them must not stand before
the column `least`. -/
def read (least : Nat) (broken : Bool) : List Spot → Option (Gap × List Spot)
  | [] => some (⟨[], []⟩, [])
  | x :: xs =>
    if isBlank x.char then
      if broken then
        if x.char = '\t' ∧ x.mark.column < least then none else read least true xs
      else (read least false xs).map fun (g, rest) => ({ g with blanks := x.char :: g.blanks }, rest)
    else if isBreak x.char then
      (read least true xs).map fun (g, rest) => ({ g with breaks := x.char :: g.breaks }, rest)
    else some (⟨[], []⟩, x :: xs)

end Gap

/-! ## 2. Plain scalars -/

/-- A character that divides the items of a flow collection. -/
def isFlowMark (c : Char) : Bool := [',', '[', ']', '\x7b', '\x7d'].contains c

/-- A colon that ends a plain scalar: white space follows. -/
def endsAtColon (c : Char) (next : Option Spot) : Bool := c == ':' && isSpaceOrEnd next

/-- A colon that must not stand in a plain scalar of a flow collection. -/
def isStrayColon (c : Char) (next : Option Spot) : Bool :=
  c == ':' && next.any fun y => y.char == '?' || isFlowMark y.char

/-- Reads a word of a plain scalar: up to white space, a colon before white space or, in a flow
collection, a character that divides items. -/
def readWord (inFlow : Bool) : List Spot → Option (List Char × List Spot)
  | [] => some ([], [])
  | x :: xs =>
    if isSpace x.char then some ([], x :: xs)
    else if inFlow && isStrayColon x.char xs.head? then none
    else if endsAtColon x.char xs.head? || inFlow && isFlowMark x.char then some ([], x :: xs)
    else (readWord inFlow xs).map fun (cs, rest) => (x.char :: cs, rest)

/-- A plain scalar goes on at the spots: outside of flow collections it must be indented to the
column `least`. -/
def plainGoesOn (inFlow : Bool) (least : Nat) : List Spot → Bool
  | [] => false
  | x :: _ => inFlow || least ≤ x.mark.column

/-- Reads a plain scalar, at most `fuel` words of it. Whether the white space behind its last word
goes over a line break is told too. -/
def readPlain (inFlow : Bool) (least : Nat) :
    Nat → List Spot → Option (List Char × Bool × List Spot)
  | 0, xs => some ([], false, xs)
  | fuel + 1, xs =>
    if Spot.startsDocument xs || xs.head?.any (·.char == '#') then some ([], false, xs)
    else match readWord inFlow xs with
      | none => none
      | some (word, xs) =>
        if !xs.head?.any (isSpace ·.char) then some (word, false, xs)
        else match Gap.read least false xs with
          | none => none
          | some (gap, xs) =>
            if plainGoesOn inFlow least xs then match readPlain inFlow least fuel xs with
              | none => none
              | some ([], broken, xs) => some (word, gap.isBroken || broken, xs)
              | some (more, broken, xs) => some (word ++ gap.text ++ more, broken, xs)
            else some (word, gap.isBroken, xs)

/-! ## 3. Quoted scalars -/

/-- The character an escape of one letter stands for. -/
def escaped? : Char → Option Char
  | '0' => some '\x00'
  | 'a' => some '\x07'
  | 'b' => some '\x08'
  | 't' | '\t' => some '\t'
  | 'n' => some '\n'
  | 'v' => some '\x0b'
  | 'f' => some '\x0c'
  | 'r' => some '\r'
  | 'e' => some '\x1b'
  | ' ' => some ' '
  | '"' => some '"'
  | '/' => some '/'
  | '\\' => some '\\'
  | 'N' => some '\x85'
  | '_' => some '\xa0'
  | 'L' => some '\u2028'
  | 'P' => some '\u2029'
  | _ => none

/-- The number of hexadecimal digits after an escape letter. -/
def escapeWidth? : Char → Option Nat
  | 'x' => some 2
  | 'u' => some 4
  | 'U' => some 8
  | _ => none

/-- Why a run of characters within quotes ends. -/
inductive RunEnd where
  /-- At the closing quote. -/
  | closed
  /-- Before white space. -/
  | gap
  /-- Behind a line break that a backslash takes away. -/
  | joined
  deriving DecidableEq, Repr

/-- Reads characters within quotes up to white space or the closing quote. -/
def readRun (double : Bool) (xs : List Spot) : Option (List Char × RunEnd × List Spot) :=
  match xs with
  | [] => none
  | ⟨c, m⟩ :: xs =>
    if isSpace c then some ([], .gap, ⟨c, m⟩ :: xs)
    else if !double && c = '\'' then match xs with
      | ⟨'\'', _⟩ :: xs => (readRun double xs).map fun (cs, rest) => ('\'' :: cs, rest)
      | xs => some ([], .closed, xs)
    else if double && c = '"' then some ([], .closed, xs)
    else if double && c = '\\' then match xs with
      | [] => none
      | ⟨letter, _⟩ :: xs =>
        if isBreak letter then some ([], .joined, xs)
        else match escapeWidth? letter with
          | some width =>
            let digits := Spot.chars (xs.take width)
            match if digits.length = width then (naturalOf? 16 digits).bind charOfCode? else none with
            | some c => (readRun double (xs.drop width)).map fun (cs, rest) => (c :: cs, rest)
            | none => none
          | none => match escaped? letter with
            | some c => (readRun double xs).map fun (cs, rest) => (c :: cs, rest)
            | none => none
    else (readRun double xs).map fun (cs, rest) => (c :: cs, rest)
termination_by xs.length
decreasing_by all_goals (simp only [List.length_cons, List.length_drop]; omega)

/-- Reads a quoted scalar behind its opening quote, at most `fuel` runs of it. -/
def readQuoted (double : Bool) : Nat → List Spot → Option (List Char × List Spot)
  | 0, _ => none
  | fuel + 1, xs =>
    if Spot.startsDocument xs then none
    else match readRun double xs with
      | none => none
      | some (run, .closed, xs) => some (run, xs)
      | some (run, ends, xs) =>
        let joined := ends == .joined
        match Gap.read 0 joined xs with
        | none => none
        | some (gap, xs) =>
          (readQuoted double fuel xs).map fun (more, rest) =>
            (run ++ (if joined then gap.breaks else gap.text) ++ more, rest)

/-! ## 4. Block scalars -/

/-- What becomes of the line breaks a block scalar ends with. -/
inductive Chomping where
  /-- The first is kept. -/
  | clip
  /-- None is kept. -/
  | strip
  /-- All are kept. -/
  | keep
  deriving DecidableEq, Repr

/-- The sign for a way of chomping. -/
def Chomping.ofSign? : Char → Option Chomping
  | '-' => some .strip
  | '+' => some .keep
  | _ => none

/-- A digit that tells an indentation. -/
def indentDigit? (c : Char) : Option Nat :=
  if '1' ≤ c ∧ c ≤ '9' then some (c.toNat - '0'.toNat) else none

/-- Reads what may stand behind the sign of a block scalar: a way of chomping and an indentation,
in any order. -/
def readBlockSigns : List Spot → Chomping × Option Nat × List Spot
  | [] => (.clip, none, [])
  | x :: xs => match Chomping.ofSign? x.char, indentDigit? x.char with
    | some chomping, _ => match xs with
      | [] => (chomping, none, [])
      | y :: ys => match indentDigit? y.char with
        | some n => (chomping, some n, ys)
        | none => (chomping, none, xs)
    | none, some n => match xs with
      | [] => (.clip, some n, [])
      | y :: ys => match Chomping.ofSign? y.char with
        | some chomping => (chomping, some n, ys)
        | none => (.clip, some n, xs)
    | none, none => (.clip, none, x :: xs)

/-- The spots behind one line break; nothing when they begin with none. -/
def afterBreak? : List Spot → Option (Char × List Spot)
  | [] => none
  | x :: xs => if isBreak x.char then some (x.char, xs) else none

/-- The rest of a line that holds nothing more than blanks and a comment: the spots from its line
break on. -/
def skipLineEnd (xs : List Spot) : Option (List Spot) :=
  let xs := xs.dropWhile (isBlank ·.char)
  let xs := if xs.head?.any (·.char == '#') then xs.dropWhile (!isBreak ·.char) else xs
  if xs.head?.all (isBreak ·.char) then some xs else none

/-- Reads empty lines up to the next character that belongs to a block scalar: the line breaks, and
the widest indentation met. A tab must not stand in the indentation; where the indentation is not
known yet all leading spaces are. -/
def readEmptyLines (indent : Option Nat) (widest : Nat) :
    List Spot → Option (List Char × Nat × List Spot)
  | [] => some ([], widest, [])
  | x :: xs =>
    let inside := indent.all (x.mark.column < ·)
    if inside && x.char = ' ' then readEmptyLines indent (max widest (x.mark.column + 1)) xs
    else if inside && x.char = '\t' then none
    else if isBreak x.char then
      (readEmptyLines indent (max widest x.mark.column) xs).map fun (cs, rest) =>
        (x.char :: cs, rest)
    else some ([], max widest x.mark.column, x :: xs)

/-- A block scalar that is being read: its text, the last line break and the empty lines behind
it, and whether its last line began with a blank. -/
structure BlockText where
  text : List Char
  lastBreak : List Char
  emptyLines : List Char
  afterBlank : Bool

namespace BlockText

/-- The text with the line breaks before a further line. A single line break between two lines
that begin with no blank counts as a space in a folded scalar, and for nothing when empty lines
follow. -/
def joined (b : BlockText) (folded blankAhead : Bool) : List Char :=
  if folded && b.lastBreak = ['\n'] && !b.afterBlank && !blankAhead then
    b.text ++ if b.emptyLines.isEmpty then [' '] else b.emptyLines
  else b.text ++ b.lastBreak ++ b.emptyLines

/-- The text with the line breaks at its end. -/
def chomped (b : BlockText) : Chomping → List Char
  | .strip => b.text
  | .clip => b.text ++ b.lastBreak
  | .keep => b.text ++ b.lastBreak ++ b.emptyLines

end BlockText

/-- Reads the lines of a block scalar, at most `fuel` of them. -/
def readBlockLines (folded : Bool) (indent : Nat) :
    Nat → BlockText → List Spot → Option (BlockText × List Spot)
  | 0, b, xs => some (b, xs)
  | _ + 1, b, [] => some (b, [])
  | fuel + 1, b, x :: xs =>
    if x.mark.column ≠ indent then some (b, x :: xs)
    else
      let blankAhead := isBlank x.char
      let line := (x :: xs).takeWhile (!isBreak ·.char)
      let text := b.joined folded blankAhead ++ Spot.chars line
      let rest := (x :: xs).dropWhile (!isBreak ·.char)
      let (lastBreak, rest) := match afterBreak? rest with
        | some (c, rest) => ([c], rest)
        | none => ([], rest)
      match readEmptyLines (some indent) 0 rest with
      | none => none
      | some (emptyLines, _, rest) =>
        readBlockLines folded indent fuel ⟨text, lastBreak, emptyLines, blankAhead⟩ rest

/-- Reads a block scalar behind its sign, in a collection whose contents are indented to the column
`least`. -/
def readBlock (folded : Bool) (least : Nat) (xs : List Spot) : Option (List Char × List Spot) :=
  let (chomping, digit, xs) := readBlockSigns xs
  match skipLineEnd xs with
  | none => none
  | some xs =>
    let xs := ((afterBreak? xs).map (·.2)).getD xs
    let known := digit.map (least - 1 + ·)
    match readEmptyLines known 0 xs with
    | none => none
    | some (emptyLines, widest, xs) =>
      let indent := known.getD (max widest (max least 1))
      (readBlockLines folded indent xs.length ⟨[], [], emptyLines, false⟩ xs).map
        fun (b, rest) => (b.chomped chomping, rest)

end Stencil.Yaml
