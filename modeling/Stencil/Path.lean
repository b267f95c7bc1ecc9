import Stencil.Text.Split
import Stencil.Text.Identifier

/-!
# Paths

The part of a placeholder before the colon is a path: an identifier that names a value, then any
number of steps, each a field `.name` or a call `.name()`.

```text
path   := name step*
step   := "." name "()"?
name   := [A-Za-z_][A-Za-z0-9_]*
```

`Path.parse?` reads a path and `Path.print` writes it.
-/

namespace Stencil

open Text

/-- One step of a path after its root. -/
structure Step where
  /-- The name that is read or called. -/
  name : String
  /-- Whether the step calls a method. -/
  call : Bool
  deriving DecidableEq, Repr

/-- A path from a named value through fields and calls. -/
structure Path where
  /-- The name looked up among the values. -/
  root : String
  /-- The steps taken from there, in order. -/
  steps : List Step
  deriving DecidableEq, Repr

/-- The token of a call of `name`. -/
def callToken (name : String) : String := name ++ "()"

namespace Step

/-- The step as it is written, without its dot: `name` or `name()`. -/
def token (s : Step) : String := if s.call then callToken s.name else s.name

/-- The text without the call marker at its end, if it has one. -/
def dropCall? (cs : List Char) : Option (List Char) :=
  match cs.reverse with
  | ')' :: '(' :: name => some name.reverse
  | _ => none

/-- Reads one step. -/
def parse? (cs : List Char) : Option Step :=
  let (name, call) := match dropCall? cs with
    | some name => (name, true)
    | none => (cs, false)
  if isIdentifier name then some ⟨String.ofList name, call⟩ else none

end Step

namespace Path

/-- Reads a path; anything that is not one is refused. -/
def parse? (expression : String) : Option Path :=
  match splitAt '.' expression.toList with
  | [] => none
  | root :: parts =>
    if isIdentifier root then (parts.mapM Step.parse?).map (⟨String.ofList root, ·⟩) else none

/-- The path as it is written. -/
def print (p : Path) : String := ".".intercalate (p.root :: p.steps.map Step.token)

/-- The path is a bare name. -/
def isSimple (p : Path) : Bool := p.steps.isEmpty

end Path

end Stencil
