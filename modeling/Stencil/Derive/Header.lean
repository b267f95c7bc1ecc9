import Stencil.Derive.Table

/-!
# The header of what is derived

What is derived from a declaration with parameters has parameters and conditions of its own: each
type must be sendable, shareable and free of borrows, and when there is one, the type of every field
that has a row must be one whose values can be shown. All texts are without white space.
-/

namespace Stencil.Derive

/-! ## 1. Parameters -/

/-- What is demanded of every type parameter. -/
def demandedBounds : String := "::core::marker::Send+::core::marker::Sync+'static"

/-- What is demanded of the type of a field. -/
def demandedOfField : String := "::fstring::ToValue"

namespace Parameter

/-- The text of a parameter. Bounds are added behind its own, and defaults are left out. -/
def text : Parameter → String
  | lifetime name => "'" ++ name
  | const name ts => "const" ++ name.text ++ ":" ++ Tree.rowText ts
  | type name bounds =>
    let joint := bounds.getLast?.any fun t => !t.isSign '+'
    name.text ++ ":" ++ Tree.rowText bounds ++ (if joint then "+" else "") ++ demandedBounds

/-- The parameter as an argument. -/
def argument : Parameter → String
  | lifetime name => "'" ++ name
  | const name _ => name.text
  | type name _ => name.text

/-- The parameter is a type. -/
def isType : Parameter → Bool
  | type _ _ => true
  | _ => false

end Parameter

/-! ## 2. The header -/

namespace Declaration

/-- The texts of the parameters. -/
def parameterTexts (d : Declaration) : List String := d.parameters.map (·.text)

/-- The type itself: its name, and its parameters as arguments. -/
def selfType (d : Declaration) : String :=
  d.name.text ++
    if d.parameters.isEmpty then ""
    else "<" ++ ",".intercalate (d.parameters.map (·.argument)) ++ ">"

/-- The conditions: those of the declaration, and one for each field with a row when there is a
parameter that is a type. -/
def conditionTexts (d : Declaration) (t : Table) : List String :=
  d.conditions.map Tree.rowText ++
    if d.parameters.any (·.isType) then
      t.fieldTypes.map fun ts => Tree.rowText ts ++ ":" ++ demandedOfField
    else []

end Declaration

namespace Table

/-- The body that shows the object as its type shows it, when it is shown so. -/
def displayText? (t : Table) : Option String :=
  if t.display then some "\x7b::core::fmt::Display::fmt(self,f)\x7d" else none

/-- The slots with what they read. -/
def readTexts (t : Table) : List (String × String) :=
  t.slots.map fun (r, slot) => (s!"{slot}u32", r.member.text)

end Table

end Stencil.Derive
