/-!
# The pieces of a template

A template is text with placeholders in braces. Reading it gives segments: text that is copied as
it stands, and placeholders that name a value and, after a colon, how to lay it out. What is
between the braces is only split and trimmed here; whether the path and the format mean anything
is asked when the placeholder is filled in.
-/

namespace Stencil

/-- What stands between a pair of braces, split at its first colon and trimmed. -/
structure Placeholder where
  /-- The path to the value, not validated yet. -/
  path : String
  /-- The format after the colon, absent when it is missing or blank. -/
  format : Option String
  /-- Where the opening brace stands, in bytes from the start of the template. -/
  offset : Nat
  deriving DecidableEq, Repr

/-- A piece of a template. -/
inductive Segment where
  /-- Text copied to the output. -/
  | literal (text : String)
  /-- A place to fill in. -/
  | placeholder (p : Placeholder)
  deriving DecidableEq, Repr

/-- Why a template cannot be read on, with the byte offset of the brace at fault. -/
inductive ScanError where
  /-- An opening brace whose span never closes. -/
  | unmatchedBrace (offset : Nat)
  /-- A closing brace outside every span, not doubled. -/
  | strayCloseBrace (offset : Nat)
  /-- A span that holds nothing but blanks. -/
  | emptyPlaceholder (offset : Nat)
  deriving DecidableEq, Repr

namespace ScanError

/-- The offset at which reading stopped. -/
def offset : ScanError → Nat
  | unmatchedBrace n | strayCloseBrace n | emptyPlaceholder n => n

/-- The same error seen from a template that has `n` more bytes in front. -/
def shift (n : Nat) : ScanError → ScanError
  | unmatchedBrace k => unmatchedBrace (k + n)
  | strayCloseBrace k => strayCloseBrace (k + n)
  | emptyPlaceholder k => emptyPlaceholder (k + n)

@[simp] theorem offset_shift (n : Nat) (e : ScanError) : (e.shift n).offset = e.offset + n := by
  cases e <;> rfl

/-- The wording of a scan error. -/
def message : ScanError → String
  | unmatchedBrace n => s!"unmatched '\x7b' at offset {n}"
  | strayCloseBrace n => s!"stray '\x7d' at offset {n}"
  | emptyPlaceholder n => s!"empty placeholder at offset {n}"

end ScanError

end Stencil
