import Stencil.Engine.Render
import Stencil.Value.Table

/-!
# Hosts that render

A host may answer by rendering a template with the engine that asks it. The nested render sees the
tables as the outer one left them and adds to them; when the outer render goes on it finds what the
nested one remembered.
-/

namespace Stencil

namespace TableEntry

/-- An entry that renders a template; an error of the render becomes the entry's failure. -/
def rendering (kind : AccessKind) (name : String) (slot : Nat) (template : String)
    (values : ValueMap) : TableEntry :=
  ⟨kind, name, slot, fun e => match e.render template values with
    | (.ok text, e) => (.ok (.string text), e)
    | (.error error, e) => (.error (.failed error.message), e)⟩

end TableEntry

end Stencil
