import Stencil.Derive.Lexeme
import Stencil.Derive.Options

/-!
# Declarations

A declaration as the source has it, read into its parts: attributes, name, parameters, conditions on
them, and a body. `Source.read` reads the parts from their texts in the order of the source, so that
the first thing that is wrong is reported; but a text that cannot even be cut into token trees is
reported before everything else.
-/

namespace Stencil.Derive

/-! ## 1. Parts -/

/-- A field. -/
structure Field where
  name : Word
  type : List Tree
  attributes : List Meta
  deriving Repr

/-- A parameter of a declaration. -/
inductive Parameter where
  | lifetime (name : String)
  /-- A type, with what is demanded of it. -/
  | type (name : Word) (bounds : List Tree)
  /-- A constant of a type. -/
  | const (name : Word) (type : List Tree)
  deriving Repr

/-- The body of a declaration. -/
inductive Body where
  | named (fields : List Field)
  | tuple
  | unit
  | enumeration
  | union
  deriving Repr

/-- A declaration. -/
structure Declaration where
  attributes : List Meta
  name : Word
  parameters : List Parameter
  /-- What is demanded besides the bounds of the parameters. -/
  conditions : List (List Tree)
  body : Body
  deriving Repr

/-! ## 2. Reading -/

/-- What kind of thing is declared. -/
inductive Shape where
  | named
  | tuple
  | unit
  | enumeration
  | union
  deriving DecidableEq, Repr

/-- The texts of a field. -/
structure FieldSource where
  name : String
  type : String
  attributes : List String
  deriving DecidableEq, Repr

/-- The texts of a declaration. -/
structure Source where
  shape : Shape
  attributes : List String
  name : String
  parameters : List String
  conditions : Option String
  fields : List FieldSource
  deriving DecidableEq, Repr

/-- Applies a function that may fail to every member of a list, and fails at the first that fails. -/
def collect {α β ε : Type} (f : α → Except ε β) : List α → Except ε (List β)
  | [] => .ok []
  | a :: as => match f a with
    | .error e => .error e
    | .ok b => match collect f as with
      | .error e => .error e
      | .ok bs => .ok (b :: bs)

/-- The trees of a text. -/
def treesOf (s : String) : Except SyntaxError (List Tree) :=
  match Tree.ofText? s with
  | some ts => .ok ts
  | none => .error .unreadable

/-- All texts of a declaration can be cut into token trees. -/
def Source.isReadable (s : Source) : Bool :=
  (s.name :: s.attributes ++ s.parameters ++ s.conditions.toList ++
    s.fields.flatMap fun f => f.name :: f.type :: f.attributes).all fun t => (Tree.ofText? t).isSome

/-- Reads a text that is one identifier. -/
def identifierOf (s : String) : Except SyntaxError Word :=
  match treesOf s with
  | .error e => .error e
  | .ok ts => match readIdentifier ts with
    | .ok (w, []) => .ok w
    | .ok _ => .error .unexpectedToken
    | .error e => .error e

/-- Reads the name of a field: an identifier, or a lone underscore. -/
def fieldNameOf (s : String) : Except SyntaxError Word :=
  if s = "_" then .ok (.plain "_") else identifierOf s

/-- Reads the content of an attribute. -/
def attributeOf (s : String) : Except SyntaxError Meta :=
  match treesOf s with
  | .error e => .error e
  | .ok ts => Meta.readWhole ts

/-- What is left of a row of trees before an equals sign that stands outside of angle brackets:
what follows is a default. -/
def beforeDefault (ts : List Tree) : List Tree := upTo 0 false ts
where
  /-- Takes trees in so many open angle brackets; `arrow` says that the tree before may be the first
  half of an arrow. -/
  upTo : Nat → Bool → List Tree → List Tree
    | _, _, [] => []
    | depth, arrow, t :: ts =>
      if t.isSign '=' && depth == 0 then []
      else if t.isSign '<' then t :: upTo (depth + 1) false ts
      else if t.isSign '>' && !arrow then t :: upTo (depth - 1) false ts
      else t :: upTo depth (t.isJoint '-' || t.isJoint '=') ts

/-- The parts of a row of trees between the commas that stand outside of angle brackets. -/
def splitCommas (ts : List Tree) : List (List Tree) := (parts 0 false [] ts).filter (!·.isEmpty)
where
  /-- Splits behind the trees of a part that has begun, which are in reverse order. -/
  parts : Nat → Bool → List Tree → List Tree → List (List Tree)
    | _, _, part, [] => [part.reverse]
    | depth, arrow, part, t :: ts =>
      if t.isSign ',' && depth == 0 then part.reverse :: parts 0 false [] ts
      else if t.isSign '<' then parts (depth + 1) false (t :: part) ts
      else if t.isSign '>' && !arrow then parts (depth - 1) false (t :: part) ts
      else parts depth (t.isJoint '-' || t.isJoint '=') (t :: part) ts

/-- Reads a parameter. -/
def readParameter : List Tree → Except SyntaxError Parameter
  | .lifetime name :: _ => .ok (.lifetime name)
  | .word ⟨false, "const"⟩ :: rest => match readIdentifier rest with
    | .ok (w, t :: type) => if t.isSign ':' then .ok (.const w (beforeDefault type))
        else .error .unexpectedToken
    | .ok (_, []) => .error .unexpectedToken
    | .error e => .error e
  | ts => match readIdentifier ts with
    | .ok (w, []) => .ok (.type w [])
    | .ok (w, t :: rest) =>
      if t.isSign ':' then .ok (.type w (beforeDefault rest))
      else if t.isSign '=' then .ok (.type w [])
      else .error (.expected .comma false)
    | .error e => .error e

/-- Reads the text of a parameter. -/
def parameterOf (s : String) : Except SyntaxError Parameter :=
  match treesOf s with
  | .error e => .error e
  | .ok ts => readParameter ts

/-- Reads a field: its attributes, its name and its type. -/
def FieldSource.read (f : FieldSource) : Except SyntaxError Field := do
  let attributes ← collect attributeOf f.attributes
  let name ← fieldNameOf f.name
  let type ← treesOf f.type
  return ⟨name, type, attributes⟩

/-- Reads the body of a declaration. Only named fields are needed. -/
def Source.readBody (s : Source) : Except SyntaxError Body :=
  match s.shape with
  | .named => match collect FieldSource.read s.fields with
    | .ok fields => .ok (.named fields)
    | .error e => .error e
  | .tuple => .ok .tuple
  | .unit => .ok .unit
  | .enumeration => .ok .enumeration
  | .union => .ok .union

/-- Reads a declaration from its texts. -/
def Source.read (s : Source) : Except SyntaxError Declaration :=
  if !s.isReadable then .error .unreadable
  else do
    let attributes ← collect attributeOf s.attributes
    let name ← identifierOf s.name
    let parameters ← collect parameterOf s.parameters
    let conditions ← match s.conditions with
      | none => .ok []
      | some text => (treesOf text).map splitCommas
    let body ← s.readBody
    return ⟨attributes, name, parameters, conditions, body⟩

end Stencil.Derive
