import Stencil.Text.Blank
import Stencil.Text.Case
import Stencil.Text.Quoted
import Stencil.Value.Basic

/-!
# Texts as objects

A path may call a few methods of a text: `len()` counts its characters, `is_empty()` says whether
there are none, `to_uppercase()` and `to_lowercase()` change its case and `trim()` drops the blanks
at its ends. A text has no fields.
-/

namespace Stencil

open Text

/-- The methods of texts in the order of their slots. -/
def textMethods : List String := ["len", "is_empty", "to_uppercase", "to_lowercase", "trim"]

/-- Resolves a method of texts. -/
def resolveText (name : String) : AccessKind → Option Accessor
  | .field => none
  | .method => (textMethods.idxOf? name).map (⟨.method, ·, name⟩)

/-- Reads a method of a text by its slot. -/
def readText (s : String) (a : Accessor) : Except AccessError Value :=
  match a.slot with
  | 0 => .ok (.ofSize s.toList.length)
  | 1 => .ok (.bool s.isEmpty)
  | 2 => .ok (.string (String.ofList (upper s.toList)))
  | 3 => .ok (.string (String.ofList (lower s.toList)))
  | 4 => .ok (.string (String.ofList (trim s.toList)))
  | slot => .error (.unknownSlot "String" slot)

/-- A text as the receiver of a step. -/
def Object.ofText (s : String) : Object Value where
  typeKey := .text
  identity := .text s
  typeName := "String"
  description := s
  document? := none
  resolve := resolveText
  invoke := quietly (readText s)

/-- The object that a step reads from: scalars have none. -/
def Value.receiver? : Value → Option (Object Value)
  | .string s => some (.ofText s)
  | .object o => some o
  | _ => none

/-! ## Showing values to developers -/

/-- A number with the word for its kind. -/
def Number.debugText (n : Number) : String :=
  match n with
  | .signed _ => s!"I64({n.text})"
  | .unsigned _ => s!"U64({n.text})"
  | .float _ => s!"F64({n.text})"

/-- A value with the word for its kind, texts in quotes and objects by their short type name. -/
def Value.debugText : Value → String
  | .null => "Null"
  | .bool b => s!"Bool({boolText b})"
  | .number n => s!"Number({n.debugText})"
  | .string s => s!"String({quoted s})"
  | .object o => s!"Object({quoted (shortTypeName o.typeName)})"

end Stencil
