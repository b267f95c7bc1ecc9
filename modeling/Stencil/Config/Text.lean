import Stencil.Config.Basic
import Stencil.Engine.State
import Stencil.Text.Quoted

/-!
# Showing configurations and engines to developers
-/

namespace Stencil

open Text

/-- The word for a render cache mode. -/
def RenderCache.debugText : RenderCache → String
  | .output => "Output"
  | .compiled => "Compiled"
  | .disabled => "Disabled"

/-- A set of names, in quotes and in order. -/
def NameSet.debugText (s : NameSet) : String :=
  "\x7b" ++ ", ".intercalate (s.names.map quoted) ++ "\x7d"

/-- A configuration with the names of its fields. -/
def Config.debugText (c : Config) : String :=
  let names := match c.allowedAccessors with
    | none => "None"
    | some names => s!"Some({NameSet.debugText names})"
  let calls := if c.allowMethodCalls then "true" else "false"
  s!"EngineConfig \x7b render_cache: {c.renderCache.debugText}, " ++
    s!"allow_method_calls: {calls}, allowed_accessors: {names} \x7d"

/-- The sizes of tables with their names. -/
def CacheStats.debugText (s : CacheStats) : String :=
  s!"CacheStats \x7b rendered: {s.rendered}, compiled: {s.compiled}, " ++
    s!"accessors: {s.accessors} \x7d"

/-- An engine with its configuration and the sizes of its tables. -/
def Engine.debugText (e : Engine) : String :=
  s!"Engine \x7b config: {e.config.debugText}, stats: {e.stats.debugText} \x7d"

end Stencil
