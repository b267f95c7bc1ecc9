/-!
# Accessors

A step of a path reads a field or calls a method of an object. Objects answer in two steps: they
resolve a name to an accessor, a plain descriptor, and later invoke the accessor. What an object
resolves depends on its type alone, so that an accessor may be kept and used again.
-/

namespace Stencil

/-- Whether a step reads a field or calls a method. -/
inductive AccessKind where
  | field
  | method
  deriving DecidableEq, Repr

/-- The word for an access kind. -/
def AccessKind.word : AccessKind → String
  | .field => "field"
  | .method => "method"

/-- Which entry of an object's table to read. Accessors mean something only to the type that
resolved them. -/
structure Accessor where
  kind : AccessKind
  slot : Nat
  name : String
  deriving DecidableEq, Repr

/-- The concrete type of an object. Two types may have one name. -/
inductive TypeKey where
  /-- Texts. -/
  | text
  /-- Documents. -/
  | document
  /-- A type of the host program. -/
  | host (label : String)
  deriving DecidableEq, Repr

/-- What tells one object from another. -/
inductive Identity where
  /-- An object made by the host program, by its number. -/
  | numbered (n : Nat)
  /-- What a document holds under a name. -/
  | member (owner : Identity) (name : String)
  /-- A text is told apart by what it says. -/
  | text (s : String)
  deriving DecidableEq, Repr

/-- Why one step of a path failed. -/
inductive AccessError where
  /-- The object has no such field, and no getter for it either. -/
  | noFieldOrGetter (typeName field getter : String)
  /-- The object has no such method. -/
  | noMethod (typeName method : String)
  /-- The value is a scalar that nothing can be read from. -/
  | notIntrospectable (kind : String)
  /-- The configuration forbids the access. -/
  | denied (name : String)
  /-- The object was handed an accessor whose slot it does not know. -/
  | unknownSlot (typeName : String) (slot : Nat)
  /-- The accessor exists, but reading it failed. -/
  | failed (message : String)
  deriving DecidableEq, Repr

/-- The wording of an access error. -/
def AccessError.message : AccessError → String
  | noFieldOrGetter typeName field getter =>
    s!"{typeName} has no field '{field}' and no getter '{getter}()'"
  | noMethod typeName method => s!"{typeName} has no method '{method}()'"
  | notIntrospectable kind => s!"{kind} values have no accessors"
  | denied name => s!"access to '{name}' is not allowed"
  | unknownSlot typeName slot => s!"{typeName} has no accessor in slot {slot}"
  | failed message => message

/-- The name of a type without its module path and its parameters: what stands before the first
`<`, and of that what stands after the last `::`. -/
def shortTypeName (name : String) : String :=
  let base := name.toList.takeWhile (· != '<')
  String.ofList (afterLastPath base.reverse [])
where
  /-- Collects the characters back from the end of a name until two colons stop it. -/
  afterLastPath : List Char → List Char → List Char
    | ':' :: ':' :: _, kept => kept
    | c :: cs, kept => afterLastPath cs (c :: kept)
    | [], kept => kept

end Stencil
