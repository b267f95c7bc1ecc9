import Stencil.Config.Basic
import Stencil.Template.Segment
import Stencil.Engine.ShardedTable
import Stencil.Text.Hash

/-!
# The state of an engine

An engine has a configuration that never changes, three tables that only grow, and a journal of
what it did: the events it reports and the questions it put to hosts, the newest first.

The tables are

* `rendered`, outputs by template and names of the values;
* `compiled`, the segments of a template by the template;
* `accessors`, resolved accessors by the receiver's type and the token of the step.

A token is `name` for a field, `name()` for a call and `getName()` for the getter of a missing
field, so that the three look-ups of one step never meet.
-/

namespace Stencil

open Text

/-! ## 1. Keys -/

/-- What a remembered output is filed under: the template and the names of the values, in order. -/
structure RenderKey where
  template : String
  names : List String
  deriving DecidableEq, Repr

instance : Hashable RenderKey := ⟨fun k => mix (hashText k.template) (hashTexts k.names)⟩

/-- What a compiled template is filed under. -/
structure TemplateKey where
  template : String
  deriving DecidableEq, Repr

instance : Hashable TemplateKey := ⟨fun k => hashText k.template⟩

/-- What an accessor is filed under: the concrete type of the receiver and the token. -/
structure AccessorKey where
  receiver : TypeKey
  token : String
  deriving DecidableEq, Repr

/-- The hash of a concrete type. -/
def TypeKey.hashKey : TypeKey → UInt64
  | .text => 1
  | .document => 2
  | .host label => mix 3 (hashText label)

instance : Hashable AccessorKey := ⟨fun k => mix k.receiver.hashKey (hashText k.token)⟩

/-! ## 2. The journal -/

/-- What an engine reports about its tables. -/
inductive Event where
  | renderMiss (template : String) (names : Nat)
  | renderHit (template : String)
  | renderKept (template : String)
  | templateHit (template : String)
  | templateMiss (template : String)
  | templateKept (template : String)
  | accessorHit (receiver token : String)
  | accessorResolved (receiver token : String) (slot : Nat)
  deriving DecidableEq, Repr

/-- How much an event matters. -/
inductive Level where
  | debug
  | trace
  deriving DecidableEq, Repr

/-- Misses and lost insertions are worth more than hits. -/
def Event.level : Event → Level
  | renderMiss .. | renderKept .. | templateMiss .. | templateKept .. => .debug
  | renderHit .. | templateHit .. | accessorHit .. | accessorResolved .. => .trace

/-- The wording of an event. -/
def Event.message : Event → String
  | renderMiss .. => "render cache miss"
  | renderHit .. => "render cache hit"
  | renderKept .. => "render cache entry already present, keeping it"
  | templateHit .. => "compiled template hit"
  | templateMiss .. => "compiled template miss"
  | templateKept .. => "compiled template already present, keeping it"
  | accessorHit .. => "accessor cache hit"
  | accessorResolved .. => "accessor resolved"

/-- A question an engine put to a host. -/
inductive HostCall where
  /-- The host was asked to resolve a name. -/
  | resolve (receiver : TypeKey) (host : Identity) (kind : AccessKind) (name : String)
  /-- The host was asked to read an accessor. -/
  | invoke (receiver : TypeKey) (host : Identity) (accessor : Accessor)
  deriving DecidableEq, Repr

/-! ## 3. The engine -/

/-- An engine. -/
structure Engine where
  config : Config
  rendered : ShardedTable RenderKey String
  compiled : ShardedTable TemplateKey (List Segment)
  accessors : ShardedTable AccessorKey Accessor
  /-- The events reported so far, the newest first. -/
  events : List Event
  /-- The questions put to hosts so far, the newest first. -/
  calls : List HostCall

/-- The sizes of an engine's tables. -/
structure CacheStats where
  rendered : Nat
  compiled : Nat
  accessors : Nat
  deriving DecidableEq, Repr

namespace Engine

/-- An engine that has done nothing yet. -/
def ofConfig (config : Config) : Engine := ⟨config, .empty, .empty, .empty, [], []⟩

/-- The sizes of the tables. -/
def stats (e : Engine) : CacheStats := ⟨e.rendered.size, e.compiled.size, e.accessors.size⟩

/-- Reports an event. -/
def report (event : Event) (e : Engine) : Engine := { e with events := event :: e.events }

/-- Notes a question put to a host. -/
def note (call : HostCall) (e : Engine) : Engine := { e with calls := call :: e.calls }

/-- The engine with an empty journal and the same tables. -/
def clearJournal (e : Engine) : Engine := { e with events := [], calls := [] }

end Engine

end Stencil
