import Stencil.Numeric.Decimal

/-!
# Format specifications

What follows the colon of a placeholder says how its value is laid out.

```text
spec := [ "<" | ">" ] [ width ] [ "." precision ] [ type ]
```

The type is one character: `f` for fixed places, `d` for integers, and any other for text, which
is also the type when there is none. Width and precision are at most 65535. Integers take no
precision. `FormatSpec.parse` reads a specification and `FormatSpec.print` writes one.
-/

namespace Stencil

open Numeric

/-- The side a value stands on when there is room. -/
inductive Align where
  | left
  | right
  deriving DecidableEq, Repr

/-- How a value is turned into text before it is padded. -/
inductive FormatKind where
  /-- A number with a fixed number of places. -/
  | fixed
  /-- An integer. -/
  | integer
  /-- The text of the value. -/
  | text
  deriving DecidableEq, Repr

/-- A format specification. -/
structure FormatSpec where
  align : Option Align
  width : Option Nat
  precision : Option Nat
  kind : FormatKind
  deriving DecidableEq, Repr

/-- Why a specification cannot be read, or does not fit a value. -/
inductive SpecError where
  | widthTooLarge
  | precisionTooLarge
  | missingPrecision
  | trailingCharacters
  | precisionOfInteger
  | fixedNeedsNumber
  | integerNeedsInteger
  | integerNeedsNumber
  deriving DecidableEq, Repr

/-- The wording of a specification error. -/
def SpecError.message : SpecError → String
  | widthTooLarge => "width is too large"
  | precisionTooLarge => "precision is too large"
  | missingPrecision => "missing precision after '.'"
  | trailingCharacters => "unexpected characters after the type"
  | precisionOfInteger => "precision is not allowed with 'd'"
  | fixedNeedsNumber => "'f' requires a numeric value"
  | integerNeedsInteger => "'d' requires an integer value"
  | integerNeedsNumber => "'d' requires a numeric value"

namespace FormatSpec

/-- The greatest width and the greatest precision. -/
def maxSize : Nat := 65535

/-- The specification of an empty text. -/
def default : FormatSpec := ⟨none, none, none, .text⟩

instance : Inhabited FormatSpec := ⟨default⟩

/-! ## 1. Reading -/

/-- Reads an optional alignment. -/
def readAlign : List Char → Option Align × List Char
  | '<' :: cs => (some .left, cs)
  | '>' :: cs => (some .right, cs)
  | cs => (none, cs)

/-- Reads a run of digits as a number, or nothing when there is none. -/
def readSize (tooLarge : SpecError) (cs : List Char) :
    Except SpecError (Option Nat × List Char) :=
  let ds := cs.takeWhile Char.isDigit
  let rest := cs.dropWhile Char.isDigit
  if ds.isEmpty then .ok (none, rest)
  else if maxSize < ofDigits ds then .error tooLarge
  else .ok (some (ofDigits ds), rest)

/-- Reads an optional precision: after a point there must be digits. -/
def readPrecision : List Char → Except SpecError (Option Nat × List Char)
  | '.' :: cs => match readSize .precisionTooLarge cs with
    | .ok (none, _) => .error .missingPrecision
    | outcome => outcome
  | cs => .ok (none, cs)

/-- The kind a type character stands for. -/
def kindOf : Char → FormatKind
  | 'f' => .fixed
  | 'd' => .integer
  | _ => .text

/-- Reads an optional type character, after which nothing may follow. -/
def readKind : List Char → Except SpecError FormatKind
  | [] => .ok .text
  | [c] => .ok (kindOf c)
  | _ => .error .trailingCharacters

/-- Reads a specification. -/
def parse (text : String) : Except SpecError FormatSpec :=
  let (align, cs) := readAlign text.toList
  match readSize .widthTooLarge cs with
  | .error e => .error e
  | .ok (width, cs) => match readPrecision cs with
    | .error e => .error e
    | .ok (precision, cs) => match readKind cs with
      | .error e => .error e
      | .ok kind =>
        if kind = .integer ∧ precision.isSome then .error .precisionOfInteger
        else .ok ⟨align, width, precision, kind⟩

/-! ## 2. Writing -/

/-- The text of an alignment. -/
def alignText : Option Align → List Char
  | some .left => ['<']
  | some .right => ['>']
  | none => []

/-- The text of a kind; the text kind needs none. -/
def kindText : FormatKind → List Char
  | .fixed => ['f']
  | .integer => ['d']
  | .text => []

/-- The text of a specification. -/
def print (s : FormatSpec) : String :=
  String.ofList (alignText s.align ++ (match s.width with
    | some n => digits n
    | none => []) ++ (match s.precision with
    | some n => '.' :: digits n
    | none => []) ++ kindText s.kind)

end FormatSpec

end Stencil
