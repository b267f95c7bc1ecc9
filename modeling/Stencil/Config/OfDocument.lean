import Stencil.Config.Basic
import Stencil.Config.Problem
import Stencil.Document.Basic

/-!
# Configurations from documents

A document configures an engine when it is an object of settings, in any order, or an array of
settings in the order `render_cache`, `allow_method_calls`, `allowed_accessors`. What is missing
keeps its default. The first problem from the left is reported.
-/

namespace Stencil

namespace Document

/-- What a document is found to be. -/
def found : Document → Found
  | null => .nothing "null"
  | bool b => .bool b
  | number (.float x) => .float (String.ofList (Number.documentLayout.text x))
  | number n => .integer n.text
  | string s => .string s
  | array _ => .sequence
  | object _ => .map

/-- Reads the name of a choice. -/
def readVariant (name : String) : Except ConfigProblem RenderCache :=
  match RenderCache.ofWord? name with
  | some mode => .ok mode
  | none => .error (.unknownVariant name)

/-- Reads a render cache mode: its name, or an object with its name as the only key and null under
it. -/
def readRenderCache : Document → Except ConfigProblem RenderCache
  | string name => readVariant name
  | object [(name, content)] => match readVariant name, content with
    | .error e, _ => .error e
    | .ok mode, null => .ok mode
    | .ok _, d => .error (.invalidType d.found .unit)
  | object _ => .error .notOneKey
  | d => .error (.invalidType d.found .stringOrMap)

/-- Reads a truth value. -/
def readBool : Document → Except ConfigProblem Bool
  | bool b => .ok b
  | d => .error (.invalidType d.found .boolean)

/-- Reads a list of texts. -/
def readStrings : List Document → Except ConfigProblem (List String)
  | [] => .ok []
  | string s :: items => match readStrings items with
    | .ok ss => .ok (s :: ss)
    | .error e => .error e
  | d :: _ => .error (.invalidType d.found .string)

/-- Reads an optional set of names. -/
def readNames : Document → Except ConfigProblem (Option Text.NameSet)
  | null => .ok none
  | array items => match readStrings items with
    | .ok names => .ok (some (.ofList names))
    | .error e => .error e
  | d => .error (.invalidType d.found .sequence)

end Document

namespace Config

/-- The configuration with one setting from a document. -/
def readSetting (c : Config) (s : Setting) (d : Document) : Except ConfigProblem Config :=
  match s with
  | .renderCache => match d.readRenderCache with
    | .ok mode => .ok { c with renderCache := mode }
    | .error e => .error e
  | .allowMethodCalls => match d.readBool with
    | .ok allow => .ok { c with allowMethodCalls := allow }
    | .error e => .error e
  | .allowedAccessors => match d.readNames with
    | .ok names => .ok { c with allowedAccessors := names }
    | .error e => .error e

/-- The configuration with named settings from documents, one after the other. -/
def readMembers (c : Config) : List (String × Document) → Except ConfigProblem Config
  | [] => .ok c
  | (name, d) :: members => match Setting.ofName? name with
    | none => .error (.unknownField name)
    | some s => match c.readSetting s d with
      | .ok c => readMembers c members
      | .error e => .error e

/-- The configuration with the settings in order from documents, as far as there are any. -/
def readItems (c : Config) : List Setting → List Document → Except ConfigProblem Config
  | s :: settings, d :: items => match c.readSetting s d with
    | .ok c => readItems c settings items
    | .error e => .error e
  | _, _ => .ok c

/-- The configuration a document describes. -/
def ofDocument : Document → Except ConfigProblem Config
  | .object members => default.readMembers members
  | .array items => match default.readItems Setting.all items with
    | .error e => .error e
    | .ok c =>
      if Setting.all.length < items.length then .error (.tooMany items.length) else .ok c
  | d => .error (.invalidType d.found .settings)

end Config

end Stencil
