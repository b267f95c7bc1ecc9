import Stencil.Derive.Tree
import Stencil.Numeric.Radix
import Stencil.Text.WordTable

/-!
# Reading token trees

The text of a declaration is cut into lexemes, and brackets that match become groups. White space
and comments only divide. A text that breaks a rule of the lexemes, or whose brackets do not match,
has no trees.

`Tree.ofText?` reads a whole text.
-/

namespace Stencil.Derive

open Numeric

/-! ## 1. Characters -/

/-- White space between lexemes: all blanks and the two direction marks. -/
def isSpace (c : Char) : Bool := Text.isBlank c || c == '\u200e' || c == '\u200f'

/-- A character that may begin a word. -/
def isWordStart (c : Char) : Bool := c == '_' || Text.wordStartRanges.contains c

/-- A character that may go on a word. -/
def isWordChar (c : Char) : Bool := Text.wordRanges.contains c

/-- A character that is a sign of its own. -/
def isSignChar (c : Char) : Bool := "~!@#$%^&*-=+|;:,<.>/?'".toList.contains c

/-- The longest word at the beginning of a text, and what follows it. -/
def wordOf? : List Char → Option (List Char × List Char)
  | [] => none
  | c :: cs =>
    if isWordStart c then some (c :: cs.takeWhile isWordChar, cs.dropWhile isWordChar) else none

/-- What follows the suffix of a literal: a word may be written right behind it. -/
def afterSuffix (cs : List Char) : List Char := ((wordOf? cs).map (·.2)).getD cs

/-! ## 2. Quoted literals -/

/-- The character an escape of one letter stands for. -/
def escaped? : Char → Option Char
  | 'n' => some '\n'
  | 'r' => some '\r'
  | 't' => some '\t'
  | '0' => some '\x00'
  | '\\' => some '\\'
  | '\'' => some '\''
  | '"' => some '"'
  | _ => none

/-- The digits of a code point in curly brackets, and what follows them. -/
def bracedDigits? : List Char → Option (List Char × List Char)
  | '\x7b' :: cs =>
    let isInside := fun c => c != '\x7d'
    match cs.dropWhile isInside with
    | _ :: rest => some ((cs.takeWhile isInside).filter (· != '_'), rest)
    | [] => none
  | _ => none

/-- Reads an escape behind its backslash: the character it stands for and what follows. -/
def readEscape? : List Char → Option (Char × List Char)
  | 'x' :: a :: b :: cs => (naturalOf? 16 [a, b]).map fun n => (Char.ofNat n, cs)
  | 'u' :: cs => match bracedDigits? cs with
    | some (ds, rest) =>
      if 6 < ds.length then none
      else ((naturalOf? 16 ds).bind charOfCode?).map fun c => (c, rest)
    | none => none
  | c :: cs => (escaped? c).map fun c => (c, cs)
  | [] => none

/-- Reads a text behind its opening quote, at most `fuel` characters of it. A backslash before a
line break takes away the white space that follows. -/
def readText? : Nat → List Char → Option (List Char × List Char)
  | 0, _ => none
  | _ + 1, [] => none
  | _ + 1, '"' :: rest => some ([], rest)
  | fuel + 1, '\\' :: '\n' :: cs => readText? fuel (cs.dropWhile Char.isWhitespace)
  | fuel + 1, '\\' :: cs => match readEscape? cs with
    | some (c, cs) => (readText? fuel cs).map fun (text, rest) => (c :: text, rest)
    | none => none
  | fuel + 1, '\r' :: '\n' :: cs =>
    (readText? fuel cs).map fun (text, rest) => ('\n' :: text, rest)
  | fuel + 1, c :: cs => (readText? fuel cs).map fun (text, rest) => (c :: text, rest)

/-- The text up to a quote with so many number signs behind it, and what follows them. -/
def splitRawEnd? (signs : Nat) : List Char → Option (List Char × List Char)
  | [] => none
  | c :: cs =>
    if c = '"' ∧ cs.take signs = List.replicate signs '#' then some ([], cs.drop signs)
    else (splitRawEnd? signs cs).map fun (text, rest) => (c :: text, rest)

/-- Reads a raw text: number signs, a quote, the text, and the same behind it. -/
def readRaw? (cs : List Char) : Option (List Char × List Char) :=
  match cs.dropWhile (· == '#') with
  | '"' :: rest => splitRawEnd? (cs.takeWhile (· == '#')).length rest
  | _ => none

/-- What follows a character literal behind its quote. -/
def afterChar? : List Char → Option (List Char)
  | '\\' :: cs => match readEscape? cs with
    | some (_, '\'' :: rest) => some rest
    | _ => none
  | '\'' :: _ => none
  | _ :: '\'' :: rest => some rest
  | _ => none

/-! ## 3. Numbers -/

/-- A character of the digits and the suffix of a number. -/
def isNumberChar (c : Char) : Bool := isWordChar c

/-- The number of characters of an exponent's sign at the end of a run of digits. -/
def exponentSign (run rest : List Char) : Nat :=
  match run.getLast?, rest with
  | some e, s :: d :: _ =>
    let based := run.take 2 == ['0', 'x'] || run.take 2 == ['0', 'b'] || run.take 2 == ['0', 'o']
    if (e == 'e' || e == 'E') && (s == '+' || s == '-') && d.isDigit && !based then 1 else 0
  | _, _ => 0

/-- What follows the digits of a number, with an exponent and a suffix. -/
def afterRun (cs : List Char) : List Char :=
  let rest := cs.dropWhile isNumberChar
  match exponentSign (cs.takeWhile isNumberChar) rest with
  | 0 => rest
  | n => (rest.drop n).dropWhile isNumberChar

/-- What follows a number. A point belongs to it unless a second one or a word follows. -/
def afterNumber (cs : List Char) : List Char :=
  match afterRun cs with
  | '.' :: d :: rest =>
    if d.isDigit then afterRun (d :: rest)
    else if d = '.' || isWordStart d then '.' :: d :: rest
    else d :: rest
  | ['.'] => []
  | rest => rest

/-! ## 4. Lexemes -/

/-- A lexeme: a tree without content, or one side of a pair of brackets. -/
inductive Lexeme where
  | tree (t : Tree)
  | opening (b : Bracket)
  | closing (b : Bracket)
  deriving Repr

/-- The characters before the end of a comment in so many open ones, dropped. -/
def dropComment : Nat → List Char → Option (List Char)
  | _, [] => none
  | depth, '/' :: '*' :: cs => dropComment (depth + 1) cs
  | 0, '*' :: '/' :: cs => some cs
  | depth + 1, '*' :: '/' :: cs => dropComment depth cs
  | depth, _ :: cs => dropComment depth cs

/-- The characters that were read when `rest` is left of `cs`. -/
def consumed (cs rest : List Char) : String := String.ofList (cs.take (cs.length - rest.length))

/-- Any literal but a text, which is known by what follows it. -/
def otherLiteral (cs rest : List Char) : Lexeme × List Char :=
  (.tree (.literal (consumed cs (afterSuffix rest))), afterSuffix rest)

/-- A text literal that began with `cs`. -/
def textLiteral (cs text rest : List Char) : Lexeme × List Char :=
  (.tree (.string (String.ofList text) (consumed cs (afterSuffix rest))), afterSuffix rest)

/-- Reads a text, a byte text or a terminated text: some letters, then quotes or, when the last of
the letters is `r`, a raw text. -/
def quotedLexeme? (cs : List Char) : Option (Lexeme × List Char) :=
  let fuel := cs.length + 1
  match cs with
  | '"' :: rest => (readText? fuel rest).map fun (text, rest) => textLiteral cs text rest
  | 'r' :: rest => (readRaw? rest).map fun (text, rest) => textLiteral cs text rest
  | 'b' :: '"' :: rest | 'c' :: '"' :: rest =>
    (readText? fuel rest).map fun (_, rest) => otherLiteral cs rest
  | 'b' :: 'r' :: rest | 'c' :: 'r' :: rest =>
    (readRaw? rest).map fun (_, rest) => otherLiteral cs rest
  | 'b' :: '\'' :: rest | '\'' :: rest => (afterChar? rest).map fun rest => otherLiteral cs rest
  | _ => none

/-- The text begins like a quoted literal, so that it is no word. -/
def startsQuoted (cs : List Char) : Bool :=
  ["r\"", "r#\"", "r##", "b\"", "b'", "br\"", "br#", "c\"", "cr\"", "cr#"].any
    fun s => s.toList.isPrefixOf cs

/-- Reads a word, raw or not. Some words cannot be raw. -/
def wordLexeme? (cs : List Char) : Option (Lexeme × List Char) :=
  if startsQuoted cs then none
  else match cs with
    | 'r' :: '#' :: rest => match wordOf? rest with
      | some (name, rest) =>
        let name := String.ofList name
        if ["_", "super", "self", "Self", "crate"].contains name then none
        else some (.tree (.word ⟨true, name⟩), rest)
      | none => none
    | cs => (wordOf? cs).map fun (name, rest) =>
        (.tree (.word (.plain (String.ofList name))), rest)

/-- Reads a lifetime: a word behind a single quote that is no character literal. -/
def lifetimeLexeme? : List Char → Option (Lexeme × List Char)
  | '\'' :: cs => match wordOf? cs with
    | some (_, '\'' :: _) => none
    | some (name, rest) => some (.tree (.lifetime (String.ofList name)), rest)
    | none => none
  | _ => none

/-- Reads a bracket or a sign. -/
def signLexeme? : List Char → Option (Lexeme × List Char)
  | [] => none
  | c :: cs => match [Bracket.round, .square, .curly].find? fun b => b.openChar == c with
    | some b => some (.opening b, cs)
    | none => match [Bracket.round, .square, .curly].find? fun b => b.closeChar == c with
      | some b => some (.closing b, cs)
      | none =>
        if isSignChar c && c != '\'' then some (.tree (.sign c (cs.head?.any isSignChar)), cs)
        else none

/-- Reads one lexeme from a text that begins with one. -/
def lexeme? (cs : List Char) : Option (Lexeme × List Char) :=
  match quotedLexeme? cs with
  | some r => some r
  | none => match cs with
    | [] => none
    | c :: _ =>
      if c.isDigit then some (.tree (.literal (consumed cs (afterNumber cs))), afterNumber cs)
      else match wordLexeme? cs with
        | some r => some r
        | none => match lifetimeLexeme? cs with
          | some r => some r
          | none => signLexeme? cs

/-- Reads all lexemes of a text, at most `fuel` of them and of the pieces between them. -/
def lexemes? : Nat → List Char → Option (List Lexeme)
  | _, [] => some []
  | 0, _ => none
  | fuel + 1, c :: cs =>
    if isSpace c then lexemes? fuel cs
    else match c, cs with
      | '/', '/' :: rest => lexemes? fuel (rest.dropWhile (· != '\n'))
      | '/', '*' :: rest => (dropComment 0 rest).bind (lexemes? fuel)
      | c, cs => match lexeme? (c :: cs) with
        | some (l, rest) => (lexemes? fuel rest).map (l :: ·)
        | none => none

/-! ## 5. Trees -/

/-- The groups that are open around a place: the bracket of each and the trees before it, the
innermost first; the trees are in reverse order. -/
abbrev OpenGroups := List (Bracket × List Tree)

/-- Puts lexemes together, behind trees in reverse order in open groups. -/
def assemble? (groups : OpenGroups) (row : List Tree) : List Lexeme → Option (List Tree)
  | [] => if groups.isEmpty then some row.reverse else none
  | .tree t :: ls => assemble? groups (t :: row) ls
  | .opening b :: ls => assemble? ((b, row) :: groups) [] ls
  | .closing b :: ls => match groups with
    | (b', before) :: groups =>
      if b = b' then assemble? groups (.group b row.reverse :: before) ls else none
    | [] => none

/-- The trees of a text. -/
def Tree.ofText? (s : String) : Option (List Tree) :=
  (lexemes? s.toList.length s.toList).bind (assemble? [] [])

end Stencil.Derive
