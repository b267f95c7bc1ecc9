import Stencil.Config.Basic
import Stencil.Config.Problem
import Stencil.Number
import Stencil.Yaml.Event
import Stencil.Yaml.Scalar

/-!
# Configurations from files

A file configures an engine when its only document is a mapping of settings; a file without a
document changes nothing. The settings are those of `Config.ofDocument`, with two differences: a
plain scalar is a text wherever a text is wanted, and a problem is reported with the setting it is
in and its place.

The events are read from the left, so that the first problem is reported even when the file cannot
be read to its end.
-/

namespace Stencil

open Text Yaml

/-! ## 1. Problems in their places -/

/-- What is wrong with a configuration file, in which setting and where. -/
structure ConfigError where
  /-- The setting that was read; empty for the document itself. -/
  path : String
  problem : ConfigProblem
  /-- The place, where one is known. -/
  mark : Option Mark
  deriving DecidableEq, Repr

namespace ConfigError

/-- The wording of a place: lines and columns are counted from one, and the beginning of the text
is not worth telling. -/
def placeText : Option Mark → String
  | none => ""
  | some m =>
    if m.line = 0 ∧ m.column = 0 then "" else s!" at line {m.line + 1} column {m.column + 1}"

/-- The wording of an error. -/
def message (e : ConfigError) : String :=
  "invalid engine configuration: " ++ (if e.path = "" then "" else e.path ++ ": ") ++
    e.problem.message ++ placeText e.mark

/-- The file cannot be read. -/
def unreadable : ConfigError := ⟨"", .unreadable, none⟩

end ConfigError

/-! ## 2. What stands in a place -/

namespace Yaml

/-- The layout of floating-point numbers in messages: always spelled out. -/
def spelledLayout : Numeric.Layout := ⟨.up, fun _ => true, false⟩

/-- What an integer is found to be. -/
def foundInteger (n : Int) : Found :=
  let digits := String.ofList (Numeric.intText n)
  if (Number.ofInt? n).isSome then .integer digits
  else .wideInteger digits (if n < 0 then "i128" else "u128")

/-- What the meaning of a scalar is found to be. -/
def Meaning.found (s : String) : Meaning → Found
  | nothing => .nothing "unit value"
  | bool b => .bool b
  | integer n => foundInteger n
  | float x => .float (String.ofList (spelledLayout.text x))
  | text => .string s

/-- What an event is found to be; plain scalars mean what they spell. -/
def Event.found : Event → Found
  | scalar _ .plain s => (Meaning.ofText s).found s
  | scalar _ _ s => .string s
  | mappingStart _ | mappingEnd => .map
  | sequenceStart _ | sequenceEnd | reference _ => .sequence

/-- The name a local tag gives. -/
def localTag? : Option String → Option String
  | some tag => match tag.toList with
    | '!' :: c :: cs => some (String.ofList (c :: cs))
    | _ => none
  | none => none

/-- The content of a node: the first event, with what follows it there; and the events behind the
node when it is a scalar or stands elsewhere. -/
structure Content where
  entry : Entry
  /-- The events behind the first one, where the content stands. -/
  inside : List Entry
  /-- The events behind the first one, where the node stands. -/
  after : List Entry
  /-- The content stands elsewhere. -/
  shared : Bool

/-- The content of the next node; nothing where the document is broken off. -/
def content? (all : List Entry) : List Entry → Option Content
  | [] => none
  | ⟨_, .reference target⟩ :: after => match all.drop target with
    | [] => none
    | entry :: inside => some ⟨entry, inside, after, true⟩
  | entry :: after => some ⟨entry, after, after, false⟩

end Yaml

/-! ## 3. Settings -/

namespace Config

/-- A setting that was read, and the events behind it. -/
abbrev Read (α : Type) := Except ConfigError (α × List Entry)

/-- Reads an empty node that a tag has chosen by name. -/
def readUnit (path : String) (c : Content) (mode : RenderCache) : Read RenderCache :=
  match c.entry.event with
  | .scalar _ _ s =>
    if s = "" || isNullWord s then .ok (mode, c.after)
    else .error ⟨path, .invalidType (.string s) .unit, some c.entry.mark⟩
  | event => .error ⟨path, .invalidType event.found .unit, some c.entry.mark⟩

/-- Reads a render cache mode: its name, or a local tag that is its name before nothing. -/
def readRenderCache (all : List Entry) (path : String) (es : List Entry) : Read RenderCache :=
  match content? all es with
  | none => .error .unreadable
  | some c =>
    let choose (name : String) : Except ConfigError RenderCache := match RenderCache.ofWord? name with
      | some mode => .ok mode
      | none => .error ⟨path, .unknownVariant name, some c.entry.mark⟩
    let tagged (tag : Option String) (otherwise : Read RenderCache) : Read RenderCache :=
      match localTag? tag with
      | some name => match choose name with
        | .ok mode => readUnit path c mode
        | .error e => .error e
      | none => otherwise
    match c.entry.event with
    | .scalar tag _ s => tagged tag <| match choose s with
      | .ok mode => .ok (mode, c.after)
      | .error e => .error e
    | .sequenceStart tag =>
      tagged tag (.error ⟨path, .invalidType .sequence .tag, some c.entry.mark⟩)
    | .mappingStart tag => tagged tag (.error ⟨path, .invalidType .map .tag, some c.entry.mark⟩)
    | _ => .error .unreadable

/-- Reads a truth value: a plain scalar that spells one. -/
def readBool (all : List Entry) (path : String) (es : List Entry) : Read Bool :=
  match content? all es with
  | none => .error .unreadable
  | some c =>
    let wrong : Read Bool :=
      .error ⟨path, .invalidType c.entry.event.found .boolean, some c.entry.mark⟩
    match c.entry.event with
    | .scalar _ .plain s => match boolOf? s with
      | some b => .ok (b, c.after)
      | none => wrong
    | _ => wrong

/-- Reads the items of a sequence of texts up to its end, from the `i`-th on. Any scalar is the
text it is written as. -/
def readTexts (all : List Entry) (path : String) : Nat → List Entry → Read (List String)
  | _, [] => .error .unreadable
  | i, ⟨m, event⟩ :: es =>
    let more (s : String) : Read (List String) := match readTexts all path (i + 1) es with
      | .ok (ss, es) => .ok (s :: ss, es)
      | .error e => .error e
    let wrong (e : Entry) : Read (List String) :=
      .error ⟨s!"{path}[{i}]", .invalidType e.event.found .string, some e.mark⟩
    match event with
    | .sequenceEnd => .ok ([], es)
    | .scalar _ _ s => more s
    | .reference target => match all.drop target with
      | ⟨_, .scalar _ _ s⟩ :: _ => more s
      | e :: _ => wrong e
      | [] => .error .unreadable
    | event => wrong ⟨m, event⟩

/-- Reads an optional set of names: a sequence of texts, or nothing. -/
def readNames (all : List Entry) (path : String) (es : List Entry) : Read (Option NameSet) :=
  match content? all es with
  | none => .error .unreadable
  | some c => match c.entry.event with
    | .scalar _ .plain s =>
      if s = "" || isNullWord s then .ok (none, c.after)
      else .error ⟨path, .invalidType ((Event.scalar none .plain s).found) .sequence,
        some c.entry.mark⟩
    | .sequenceStart _ => match readTexts all path 0 c.inside with
      | .ok (names, es) => .ok (some (.ofList names), if c.shared then c.after else es)
      | .error e => .error e
    | event => .error ⟨path, .invalidType event.found .sequence, some c.entry.mark⟩

/-- Reads the value of a setting into a configuration. -/
def readValue (all : List Entry) (c : Config) (s : Setting) (es : List Entry) : Read Config :=
  match s with
  | .renderCache => match readRenderCache all s.name es with
    | .ok (mode, es) => .ok ({ c with renderCache := mode }, es)
    | .error e => .error e
  | .allowMethodCalls => match readBool all s.name es with
    | .ok (allow, es) => .ok ({ c with allowMethodCalls := allow }, es)
    | .error e => .error e
  | .allowedAccessors => match readNames all s.name es with
    | .ok (names, es) => .ok ({ c with allowedAccessors := names }, es)
    | .error e => .error e

/-- Reads settings up to the end of the mapping that begins at `m`, at most `fuel` of them; `seen`
are those that have been read. -/
def readMapping (all : List Entry) (m : Mark) :
    Nat → List Setting → Config → List Entry → Except ConfigError Config
  | 0, _, _, _ => .error .unreadable
  | fuel + 1, seen, c, es => match es with
    | ⟨_, .mappingEnd⟩ :: _ => .ok c
    | es => match content? all es with
      | none => .error .unreadable
      | some key => match key.entry.event with
        | .scalar _ _ name => match Setting.ofName? name with
          | none => .error ⟨"", .unknownField name, some key.entry.mark⟩
          | some s =>
            if seen.contains s then .error ⟨"", .duplicateField name, some m⟩
            else match readValue all c s key.after with
              | .ok (c, es) => readMapping all m fuel (s :: seen) c es
              | .error e => .error e
        | event => .error ⟨"", .invalidType event.found .fieldName, some key.entry.mark⟩

/-- Reads the document: a mapping of settings, or nothing at all. -/
def readEvents (all : List Entry) : Except ConfigError Config :=
  match all with
  | [] => .ok default
  | ⟨m, event⟩ :: es => match event with
    | .mappingStart _ => readMapping all m (es.length + 1) [] default es
    | .scalar _ .plain "" => .ok default
    | event => .error ⟨"", .invalidType event.found .settings, some m⟩

/-- The configuration a file describes. -/
def ofYaml (text : String) : Except ConfigError Config :=
  let r := Reading.ofText text.toList
  match r.entries, r.ending with
  | [], .broken => .error .unreadable
  | es, ending => match readEvents es with
    | .error e => .error e
    | .ok c => match ending with
      | .complete => .ok c
      | .followed => .error ⟨"", .severalDocuments, none⟩
      | .broken => .error .unreadable

end Config

end Stencil
