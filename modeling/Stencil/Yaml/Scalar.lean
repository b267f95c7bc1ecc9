import Stencil.Numeric.Decimal
import Stencil.Numeric.Radix

/-!
# What plain scalars mean

A plain scalar is nothing, a truth value, a number or a text by its spelling alone: the core schema.
Integers are decimal, or have the prefixes `0x`, `0o` and `0b`; they are recognised up to 128 bits.
Digits behind a leading zero are a text. A decimal that is out of the range of floating-point
numbers is a text too.
-/

namespace Stencil.Yaml

open Numeric

/-- What a plain scalar means. -/
inductive Meaning where
  | nothing
  | bool (b : Bool)
  | integer (n : Int)
  | float (x : Double)
  | text

/-- The spellings of nothing, but for the empty one. -/
def isNullWord (s : String) : Bool := ["null", "Null", "NULL", "~"].contains s

/-- The truth value a scalar spells. -/
def boolOf? (s : String) : Option Bool :=
  if ["true", "True", "TRUE"].contains s then some true
  else if ["false", "False", "FALSE"].contains s then some false
  else none

/-- The text is a row of digits behind a leading zero, with or without a sign. -/
def isPaddedDigits (cs : List Char) : Bool :=
  let body := match cs with
    | '-' :: rest | '+' :: rest => rest
    | cs => cs
  match body with
  | '0' :: c :: rest => (c :: rest).all Char.isDigit
  | _ => false

/-- The size of an integer behind its sign. -/
def magnitude? : List Char → Option Nat
  | '0' :: 'x' :: cs => naturalOf? 16 cs
  | '0' :: 'o' :: cs => naturalOf? 8 cs
  | '0' :: 'b' :: cs => naturalOf? 2 cs
  | cs => naturalOf? 10 cs

/-- The integer a scalar spells, if it has at most 128 bits. -/
def integerOf? (cs : List Char) : Option Int :=
  if isPaddedDigits cs then none
  else match cs with
    | '-' :: body => (magnitude? body).bind fun n =>
        if n ≤ Nat.pow 2 127 then some (-(n : Int)) else none
    | '+' :: body | body => (magnitude? body).bind fun n =>
        if n < Nat.pow 2 128 then some (n : Int) else none

/-- The floating-point number a scalar spells. -/
def floatOf? (s : String) : Option Double :=
  if [".inf", ".Inf", ".INF", "+.inf", "+.Inf", "+.INF"].contains s then some (.infinite false)
  else if ["-.inf", "-.Inf", "-.INF"].contains s then some (.infinite true)
  else if [".nan", ".NaN", ".NAN"].contains s then some .nan
  else if isPaddedDigits s.toList then none
  else match (Binary.read? s.toList : Option Double) with
    | some (.finite negative m e h) => some (.finite negative m e h)
    | _ => none

/-- What a plain scalar means. -/
def Meaning.ofText (s : String) : Meaning :=
  if s = "" || isNullWord s then .nothing
  else match boolOf? s with
    | some b => .bool b
    | none => match integerOf? s.toList with
      | some n => .integer n
      | none => match floatOf? s with
        | some x => .float x
        | none => .text

end Stencil.Yaml
