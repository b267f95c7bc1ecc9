import Stencil.Value.Basic

/-!
# Objects given by tables

The simplest object is a table: a list of entries, each with a kind, a name, a slot and a way to
read it. A name resolves to the first entry of its kind and name; an accessor is read from the
first entry with its slot, whatever its kind and name are.
-/

namespace Stencil

/-- One entry of an object's table. -/
structure TableEntry where
  kind : AccessKind
  name : String
  slot : Nat
  /-- The answer of the entry, by way of the engine that asks. -/
  read : Engine → Except AccessError Value × Engine

namespace TableEntry

/-- An entry that holds a value. -/
def holding (kind : AccessKind) (name : String) (slot : Nat) (v : Value) : TableEntry :=
  ⟨kind, name, slot, fun e => (.ok v, e)⟩

/-- An entry that fails with a message of its own. -/
def failing (kind : AccessKind) (name : String) (slot : Nat) (message : String) : TableEntry :=
  ⟨kind, name, slot, fun e => (.error (.failed message), e)⟩

end TableEntry

/-- The first entry of a kind and a name. -/
def resolveIn (entries : List TableEntry) (name : String) (kind : AccessKind) : Option Accessor :=
  (entries.find? fun t => t.kind = kind && t.name = name).map fun t => ⟨t.kind, t.slot, t.name⟩

/-- The answer of the first entry with the slot of an accessor. -/
def invokeIn (typeName : String) (entries : List TableEntry) (a : Accessor) (e : Engine) :
    Except AccessError Value × Engine :=
  match entries.find? fun t => t.slot = a.slot with
  | some t => t.read e
  | none => (.error (.unknownSlot typeName a.slot), e)

/-- The object of a table. -/
def Object.ofTable (label : String) (identity : Identity) (typeName description : String)
    (entries : List TableEntry) : Object Value where
  typeKey := .host label
  identity := identity
  typeName := typeName
  description := description
  document? := none
  resolve := resolveIn entries
  invoke := invokeIn typeName entries

end Stencil
