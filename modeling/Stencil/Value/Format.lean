import Stencil.Text.Ansi
import Stencil.RenderError
import Stencil.Value.Basic

/-!
# Laying values out

A value is turned into text by the kind of the specification, and the text is padded with spaces to
its width. The width is a least display width: control sequences take no room, and nothing is ever
cut off to fit. The empty value is not laid out: it is `null` whatever the format says.
-/

namespace Stencil

open Text Numeric

namespace FormatSpec

/-- The places of the fixed kind when no precision is given. -/
def defaultPlaces : Nat := 6

/-- The text of a value before it is padded. -/
def body (s : FormatSpec) (v : Value) : Except SpecError (List Char) :=
  match s.kind with
  | .fixed => match v.number? with
    | some n => .ok (fixedText (s.precision.getD defaultPlaces) n.toDouble)
    | none => .error .fixedNeedsNumber
  | .integer => match v.number? with
    | some n => match n.integer? with
      | some i => .ok (intText i)
      | none => .error .integerNeedsInteger
    | none => .error .integerNeedsNumber
  | .text => .ok (match s.precision with
    | some n => v.text.toList.take n
    | none => v.text.toList)

/-- Pads a text with spaces to a display width, on the side away from the alignment. -/
def padTo (align : Option Align) (width : Nat) (cs : List Char) : List Char :=
  let room := List.replicate (width - displayWidth cs) ' '
  match align with
  | some .left => cs ++ room
  | some .right | none => room ++ cs

/-- Pads a text as far as the specification has a width. -/
def pad (s : FormatSpec) (cs : List Char) : List Char :=
  match s.width with
  | some width => padTo s.align width cs
  | none => cs

/-- The text of a value in a specification. -/
def render (s : FormatSpec) (v : Value) : Except SpecError String :=
  match s.body v with
  | .ok cs => .ok (String.ofList (s.pad cs))
  | .error e => .error e

end FormatSpec

/-- The text of a value in a format that is still to be read. -/
def applyFormat (v : Value) (format : String) : Except RenderError String :=
  if v.isNull then .ok v.text
  else match FormatSpec.parse format with
    | .error e => .error (.invalidFormat format v.text e)
    | .ok s => match s.render v with
      | .error e => .error (.invalidFormat format v.text e)
      | .ok text => .ok text

end Stencil
