import Stencil.Value.Basic

/-!
# Documents as values

Scalars of a document become scalar values; arrays and objects become objects of one type, for
which every name is a field. A field reads the member of that name, and a document that has none
says so when it is read; `len` and `is_empty` are methods of arrays and objects.
-/

namespace Stencil

namespace Document

/-- The name of the type of documents. -/
def typeName : String := "JsonValue"

/-- Every name resolves to the field of that name, and two names also to methods. -/
def resolve (name : String) : AccessKind → Option Accessor
  | .field => some ⟨.field, 0, name⟩
  | .method => match name with
    | "len" => some ⟨.method, 1, name⟩
    | "is_empty" => some ⟨.method, 2, name⟩
    | _ => none

/-- The number of items or members. -/
def size (d : Document) : Except AccessError Nat :=
  match d with
  | array items => .ok items.length
  | object members => .ok members.length
  | d => .error (.failed s!"{d.kind} has no length")

/-- Reads an accessor of a document, where `field` is the value of a name's member. -/
def read (d : Document) (field : String → Option Value) (a : Accessor) :
    Except AccessError Value :=
  match a.slot with
  | 0 => match field a.name with
    | some v => .ok v
    | none => .error (.failed s!"{d.kind} has no key '{a.name}'")
  | 1 => match d.size with
    | .ok n => .ok (.ofSize n)
    | .error e => .error e
  | 2 => match d.size with
    | .ok n => .ok (.bool (n == 0))
    | .error e => .error e
  | slot => .error (.unknownSlot typeName slot)

end Document

/-- The object around a document, where `field` is the value of a name's member. -/
def Object.ofFields (identity : Identity) (d : Document) (field : String → Option Value) :
    Object Value where
  typeKey := .document
  identity := identity
  typeName := Document.typeName
  description := d.text
  document? := some d
  resolve := Document.resolve
  invoke := quietly (d.read field)

mutual

/-- The value of a document. What it holds is told apart by its name within it. -/
def Value.ofDocument (identity : Identity) : Document → Value
  | .null => .null
  | .bool b => .bool b
  | .number n => .number n
  | .string s => .string s
  | .array items => .object (.ofFields identity (.array items) fun _ => none)
  | .object members =>
    .object (.ofFields identity (.object members) (memberValue? identity members))

/-- The value of the member of a name. -/
def memberValue? (identity : Identity) : List (String × Document) → String → Option Value
  | [], _ => none
  | (key, d) :: members, name =>
    if key = name then some (Value.ofDocument (.member identity name) d)
    else memberValue? identity members name

end

/-- The object around any document, a scalar included. -/
def Object.ofDocument (identity : Identity) (d : Document) : Object Value :=
  match d with
  | .object members => .ofFields identity d (memberValue? identity members)
  | d => .ofFields identity d fun _ => none

end Stencil
