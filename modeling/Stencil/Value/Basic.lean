import Stencil.Document.Basic
import Stencil.Engine.State

/-!
# Values

A value is what a placeholder stands for: nothing, a scalar, a text, or an object. An object is
opaque; it has a type, a description, and answers the two questions of accessors, to resolve a name
and to read an accessor. While it reads an accessor an object may use the engine that asked, so
reading takes the state of the engine and gives it back.

Objects are equal when they are one object; everything else is equal by value, and numbers of
different kinds are never equal.
-/

namespace Stencil

/-! ## 1. Objects and values -/

/-- An object that answers with values of a type `α`. -/
structure Object (α : Type) where
  /-- The concrete type. -/
  typeKey : TypeKey
  /-- What tells this object from others. -/
  identity : Identity
  /-- The name of its type, for error messages. -/
  typeName : String
  /-- The text that stands for the object itself. -/
  description : String
  /-- The document the object is made of, if it is. -/
  document? : Option Document
  /-- Resolves a name to an accessor, if the type has such a field or method. -/
  resolve : String → AccessKind → Option Accessor
  /-- Reads an accessor, by way of the engine that asks. -/
  invoke : Accessor → Engine → Except AccessError α × Engine

/-- What a placeholder stands for. -/
inductive Value where
  /-- Present but empty. -/
  | null
  | bool (b : Bool)
  | number (n : Number)
  | string (s : String)
  | object (o : Object Value)

namespace Value

instance : Inhabited Value := ⟨null⟩

/-- The word for the kind of a value. -/
def kind : Value → String
  | null => "null"
  | bool _ => "bool"
  | number _ => "number"
  | string _ => "string"
  | object _ => "object"

/-- The value is the empty one. -/
def isNull : Value → Bool
  | null => true
  | _ => false

/-- The text of a text value. -/
def string? : Value → Option String
  | string s => some s
  | _ => none

/-- The truth value of a truth value. -/
def bool? : Value → Option Bool
  | bool b => some b
  | _ => none

/-- The number of a number. -/
def number? : Value → Option Number
  | number n => some n
  | _ => none

/-- The object of an object. -/
def object? : Value → Option (Object Value)
  | object o => some o
  | _ => none

/-! ## 2. Text and equality -/

/-- The word for a truth value. -/
def boolText (b : Bool) : String := if b then "true" else "false"

/-- The text a value is replaced by. -/
def text : Value → String
  | null => "null"
  | bool b => boolText b
  | number n => n.text
  | string s => s
  | object o => o.description

/-- Equality of values: objects by identity, everything else by value. -/
def equals : Value → Value → Bool
  | null, null => true
  | bool a, bool b => a == b
  | number a, number b => a.equals b
  | string a, string b => a == b
  | object a, object b => a.identity == b.identity
  | _, _ => false

/-! ## 3. Building -/

/-- A size as a value. -/
def ofSize (n : Nat) : Value := number (.unsigned (UInt64.ofNat n))

/-- An optional value; an absent one is the empty value. -/
def ofOption : Option Value → Value
  | some v => v
  | none => null

end Value

/-! ## 4. Objects that leave the engine alone -/

/-- Reading that does not use the engine. -/
def quietly (read : Accessor → Except AccessError Value) (a : Accessor) (e : Engine) :
    Except AccessError Value × Engine := (read a, e)

/-- A host that leaves the engine alone: reading any accessor gives back the engine as it was, the
answer hangs on nothing in it but the questions put to hosts so far, and so it is with the objects
the host answers with. Those questions may move a state that the host keeps for itself. -/
inductive Value.Quiet : Value → Prop where
  | null : Quiet .null
  | bool (b : Bool) : Quiet (.bool b)
  | number (n : Number) : Quiet (.number n)
  | string (s : String) : Quiet (.string s)
  | object (o : Object Value) (read : List HostCall → Accessor → Except AccessError Value)
      (reads : ∀ a e, o.invoke a e = (read e.calls a, e))
      (answers : ∀ asked a v, read asked a = .ok v → Quiet v) : Quiet (.object o)

end Stencil
