import Stencil.Access
import Stencil.Text.NameSet

/-!
# Configuration

A configuration says what an engine remembers of the templates it renders and which accesses a
path may make: whether methods may be called at all, and, when there is a list of names, that only
those names may be accessed. The roots of paths are not restricted.
-/

namespace Stencil

open Text

/-- What an engine remembers of a template. -/
inductive RenderCache where
  /-- The rendered text, by the template and the names of the values. A later render of the same
  template with the same names gives the first text even when the values have changed. -/
  | output
  /-- The template as it was read. -/
  | compiled
  /-- Nothing. -/
  | disabled
  deriving DecidableEq, Repr

/-- The word for a render cache mode in configuration files. -/
def RenderCache.word : RenderCache → String
  | .output => "output"
  | .compiled => "compiled"
  | .disabled => "disabled"

/-- The mode a word stands for. -/
def RenderCache.ofWord? : String → Option RenderCache
  | "output" => some .output
  | "compiled" => some .compiled
  | "disabled" => some .disabled
  | _ => none

/-- The settings a configuration file can make. -/
inductive Setting where
  | renderCache
  | allowMethodCalls
  | allowedAccessors
  deriving DecidableEq, Repr

namespace Setting

/-- The name of a setting in configuration files. -/
def name : Setting → String
  | renderCache => "render_cache"
  | allowMethodCalls => "allow_method_calls"
  | allowedAccessors => "allowed_accessors"

/-- All settings, in order. -/
def all : List Setting := [renderCache, allowMethodCalls, allowedAccessors]

/-- The setting with a name. -/
def ofName? (s : String) : Option Setting := all.find? (·.name == s)

@[simp] theorem ofName?_name (s : Setting) : ofName? s.name = some s := by cases s <;> decide

end Setting

/-- The settings of an engine. -/
structure Config where
  renderCache : RenderCache
  /-- Whether a path may call methods, both by `name()` and by the getter of a missing field. -/
  allowMethodCalls : Bool
  /-- When present, the only names a path may access. -/
  allowedAccessors : Option NameSet
  deriving DecidableEq, Repr

namespace Config

/-- Outputs are remembered and every access is allowed. -/
def default : Config := ⟨.output, true, none⟩

instance : Inhabited Config := ⟨default⟩

/-- The configuration with another render cache mode. -/
def withRenderCache (c : Config) (mode : RenderCache) : Config := { c with renderCache := mode }

/-- The configuration with method calls allowed or forbidden. -/
def withMethodCalls (c : Config) (allow : Bool) : Config := { c with allowMethodCalls := allow }

/-- The configuration that allows the given names only. -/
def withAccessors (c : Config) (names : List String) : Config :=
  { c with allowedAccessors := some (.ofList names) }

/-- The name may be accessed. -/
def allowsName (c : Config) (name : String) : Bool :=
  match c.allowedAccessors with
  | none => true
  | some names => names.contains name

/-- Refuses a name that may not be accessed. -/
def checkName (c : Config) (name : String) : Except AccessError Unit :=
  if c.allowsName name then .ok () else .error (.denied name)

/-- Refuses a call, given by its token, when calls are forbidden. -/
def checkCall (c : Config) (token : String) : Except AccessError Unit :=
  if c.allowMethodCalls then .ok () else .error (.denied token)

end Config

end Stencil
