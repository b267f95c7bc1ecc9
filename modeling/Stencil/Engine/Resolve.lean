import Stencil.Path
import Stencil.RenderError
import Stencil.Value.Text
import Stencil.Value.Map

/-!
# Resolving paths

A path starts from a named value and takes one step after the other. A call `name()` reads the
method of that name. A step `name` reads the field of that name and, when there is none, calls the
getter `getName()`. Once the value is the empty one the rest of the path is skipped.

Every step is checked before its receiver is asked anything: its name against the list of allowed
names, and its token, where it would call, against the permission to call methods. Accessors that
a type once resolved are remembered under the type and the token; what it did not resolve is not.
-/

namespace Stencil

open Text

namespace Engine

/-! ## 1. Accessors -/

/-- The accessor of a receiver for a token: the one remembered for its type, or else the one it
resolves for the name, which is then remembered. -/
def lookup (receiver : Object Value) (token name : String) (kind : AccessKind) (e : Engine) :
    Option Accessor × Engine :=
  let key : AccessorKey := ⟨receiver.typeKey, token⟩
  match e.accessors.find? key with
  | some accessor => (some accessor, e.report (.accessorHit receiver.typeName token))
  | none =>
    let e := e.note (.resolve receiver.typeKey receiver.identity kind name)
    match receiver.resolve name kind with
    | none => (none, e)
    | some accessor =>
      let e := e.report (.accessorResolved receiver.typeName token accessor.slot)
      (some accessor, { e with accessors := (e.accessors.insertIfAbsent key accessor).2 })

/-- The getter of a field. -/
def getterOf (field : String) : String := String.ofList (getterName field.toList)

/-- The accessor of a method, once calls are known to be allowed. -/
def findMethod (receiver : Object Value) (name : String) (missing : AccessError) (e : Engine) :
    Except AccessError Accessor × Engine :=
  match e.config.checkCall (callToken name) with
  | .error denied => (.error denied, e)
  | .ok () => match e.lookup receiver (callToken name) name .method with
    | (some accessor, e) => (.ok accessor, e)
    | (none, e) => (.error missing, e)

/-- The accessor of a step: a method for a call, otherwise a field or the getter in its place. -/
def findAccessor (receiver : Object Value) (s : Step) (e : Engine) :
    Except AccessError Accessor × Engine :=
  if s.call then
    e.findMethod receiver s.name (.noMethod receiver.typeName s.name)
  else match e.lookup receiver s.name s.name .field with
    | (some accessor, e) => (.ok accessor, e)
    | (none, e) =>
      let getter := getterOf s.name
      e.findMethod receiver getter (.noFieldOrGetter receiver.typeName s.name getter)

/-! ## 2. Steps -/

/-- Reads an accessor of a receiver. -/
def invoke (receiver : Object Value) (accessor : Accessor) (e : Engine) :
    Except AccessError Value × Engine :=
  receiver.invoke accessor (e.note (.invoke receiver.typeKey receiver.identity accessor))

/-- Takes one step from a value. -/
def readStep (current : Value) (s : Step) (e : Engine) : Except AccessError Value × Engine :=
  match e.config.checkName s.name with
  | .error denied => (.error denied, e)
  | .ok () => match current.receiver? with
    | none => (.error (.notIntrospectable current.kind), e)
    | some receiver => match e.findAccessor receiver s with
      | (.error failure, e) => (.error failure, e)
      | (.ok accessor, e) => e.invoke receiver accessor

/-- Takes the steps of a path from a value; the empty value ends it. A failure comes with the token
of its step. -/
def readSteps (current : Value) : List Step → Engine → Except (String × AccessError) Value × Engine
  | [], e => (.ok current, e)
  | s :: steps, e =>
    if current.isNull then (.ok current, e)
    else match e.readStep current s with
      | (.error failure, e) => (.error (s.token, failure), e)
      | (.ok next, e) => readSteps next steps e

/-! ## 3. Paths -/

/-- The value of a path that has been read, under the expression it was read from. -/
def resolvePath (expression : String) (path : Path) (values : ValueMap) (e : Engine) :
    Except RenderError Value × Engine :=
  match values.find? path.root with
  | none => (.error (.keyNotFound path.root), e)
  | some root => match e.readSteps root path.steps with
    | (.error (segment, source), e) => (.error (.access expression segment source), e)
    | (.ok v, e) => (.ok v, e)

/-- The value of a path expression. -/
def resolve (expression : String) (values : ValueMap) (e : Engine) :
    Except RenderError Value × Engine :=
  match Path.parse? expression with
  | none => (.error (.unsupportedExpression expression), e)
  | some path => e.resolvePath expression path values

end Engine

end Stencil
