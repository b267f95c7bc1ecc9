import Stencil.Access
import Stencil.FormatSpec
import Stencil.Template.Segment

/-!
# Rendering errors

Everything that can go wrong between a template and its text: reading the template, reading a
path, finding the value it starts from, taking one of its steps, and laying the value out. Each
error is a cause with what its wording needs.
-/

namespace Stencil

/-- Why a template could not be rendered or a path not be resolved. -/
inductive RenderError where
  /-- The template cannot be read. -/
  | scan (error : ScanError)
  /-- The text of a placeholder is not a path. -/
  | unsupportedExpression (expression : String)
  /-- No value has the name a path starts from. -/
  | keyNotFound (key : String)
  /-- A step of a path failed; `segment` is its token. -/
  | access (expression segment : String) (source : AccessError)
  /-- The format is no specification, or does not fit the value. -/
  | invalidFormat (format value : String) (reason : SpecError)
  deriving DecidableEq, Repr

namespace RenderError

/-- The wording of a rendering error. -/
def message : RenderError → String
  | scan error => error.message
  | unsupportedExpression expression =>
    s!"unsupported expression '{expression}': only property or method access " ++
      "such as user.name or user.age() is supported"
  | keyNotFound key => s!"key '{key}' not found in value map"
  | access expression segment source =>
    s!"expression '{expression}' failed to access '{segment}': {source.message}"
  | invalidFormat format value reason =>
    s!"invalid format '{format}' for value '{value}': {reason.message}"

/-- The same error of a template that has `n` more bytes in front. -/
def shift (n : Nat) : RenderError → RenderError
  | scan error => scan (error.shift n)
  | error => error

end RenderError

end Stencil
