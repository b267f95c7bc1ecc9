import Stencil.Yaml.Token

/-!
# Events

A document is told as a row of events: scalars, and the beginnings and ends of sequences and
mappings, in the order of the text. An alias points back to the event that carries its anchor.

The grammar is read from the left with a stack of goals. Each step looks at one token ahead, answers
the goal on top with events, and may leave new goals (`Goal.step?`). A document that cannot be read
to its end still has the events before that place.
-/

namespace Stencil.Yaml

/-! ## 1. Events -/

/-- What happens in a document. -/
inductive Event where
  | scalar (tag : Option String) (style : ScalarStyle) (text : String)
  | sequenceStart (tag : Option String)
  | sequenceEnd
  | mappingStart (tag : Option String)
  | mappingEnd
  /-- What stands at the event with this number stands here again. -/
  | reference (target : Nat)
  deriving DecidableEq, Repr

/-- An event in its place. -/
structure Entry where
  mark : Mark
  event : Event
  deriving DecidableEq, Repr

/-- How the reading of a document ends. -/
inductive Ending where
  /-- The document was read, and nothing follows it. -/
  | complete
  /-- The document was read, and something follows it. -/
  | followed
  /-- The document cannot be read further. -/
  | broken
  deriving DecidableEq, Repr

/-- The events of the first document of a file. -/
structure Reading where
  entries : List Entry
  ending : Ending
  deriving DecidableEq, Repr

/-! ## 2. Goals -/

/-- What is still to be read of a document. -/
inductive Goal where
  /-- A node; whether block collections, and sequences without an indentation of their own, may
  stand here. -/
  | node (block indentless : Bool)
  /-- The next item of a block sequence, or its end. -/
  | blockItem
  /-- The next item of a sequence without an indentation of its own, or its end. -/
  | indentlessItem
  /-- The next key of a block mapping, or its end. -/
  | blockKey
  | blockValue
  /-- The next item of a flow sequence, or its end. -/
  | flowItem (first : Bool)
  /-- The parts of a mapping with one key within a flow sequence. -/
  | pairKey
  | pairValue
  | pairEnd
  /-- The next key of a flow mapping, or its end. -/
  | flowKey (first : Bool)
  | flowValue
  /-- The value of a key that stands alone. -/
  | flowNothing
  deriving DecidableEq, Repr

/-- What a step of the grammar gives. -/
structure Step where
  entries : List Entry
  /-- The name that is given to the first of the events. -/
  anchor : Option String
  goals : List Goal
  rest : List Token

/-- The handles of tags with what they stand for. -/
abbrev TagHandles := List (String × String)

/-- The handles every document knows. -/
def TagHandles.default : TagHandles := [("!", "!"), ("!!", "tag:yaml.org,2002:")]

/-- The tag a text stands for; nothing when its handle is not known. -/
def TagText.resolve? (handles : TagHandles) (t : TagText) : Option String :=
  if t.handle = "" then some t.suffix else (handles.lookup t.handle).map (· ++ t.suffix)

/-- The step that answers a goal with nothing but further goals. -/
def Step.defer (goals : List Goal) (rest : List Token) : Step := ⟨[], none, goals, rest⟩

/-- The step that answers a goal with one event. -/
def Step.event (m : Mark) (event : Event) (goals : List Goal) (rest : List Token) : Step :=
  ⟨[⟨m, event⟩], none, goals, rest⟩

/-- The step that answers a goal with an empty scalar. -/
def Step.nothing (m : Mark) (goals : List Goal) (rest : List Token) : Step :=
  .event m (.scalar none .plain "") goals rest

/-- What may stand before a node: an anchor and a tag, in any order. -/
structure Properties where
  anchor : Option String
  tag : Option TagText
  rest : List Token

/-- Reads what stands before a node. -/
def Properties.read : List Token → Properties
  | ⟨.anchor name, _⟩ :: ⟨.tag text, _⟩ :: rest => ⟨some name, some text, rest⟩
  | ⟨.tag text, _⟩ :: ⟨.anchor name, _⟩ :: rest => ⟨some name, some text, rest⟩
  | ⟨.anchor name, _⟩ :: rest => ⟨some name, none, rest⟩
  | ⟨.tag text, _⟩ :: rest => ⟨none, some text, rest⟩
  | rest => ⟨none, none, rest⟩

/-- Reads a node behind its properties: its first event and the goals it leaves. -/
def nodeStep? (block indentless : Bool) (tag : Option String) (m : Mark) (named : Bool) :
    List Token → Option (Entry × List Goal × List Token)
  | ⟨.blockEntry, n⟩ :: rest =>
    if indentless then some (⟨m, .sequenceStart tag⟩, [.indentlessItem], ⟨.blockEntry, n⟩ :: rest)
    else if named then some (⟨m, .scalar tag .plain ""⟩, [], ⟨.blockEntry, n⟩ :: rest)
    else none
  | ⟨.scalar style text, _⟩ :: rest => some (⟨m, .scalar tag style text⟩, [], rest)
  | ⟨.flowSequence, _⟩ :: rest => some (⟨m, .sequenceStart tag⟩, [.flowItem true], rest)
  | ⟨.flowMapping, _⟩ :: rest => some (⟨m, .mappingStart tag⟩, [.flowKey true], rest)
  | ⟨kind, n⟩ :: rest =>
    if block && kind == .blockSequence then some (⟨m, .sequenceStart tag⟩, [.blockItem], rest)
    else if block && kind == .blockMapping then some (⟨m, .mappingStart tag⟩, [.blockKey], rest)
    else if named then some (⟨m, .scalar tag .plain ""⟩, [], ⟨kind, n⟩ :: rest)
    else none
  | [] => none

/-- Reads a node. The names that have been given are known, so that an alias can be told. -/
def Goal.node? (handles : TagHandles) (target? : String → Option Nat) (block indentless : Bool) :
    List Token → Option Step
  | [] => none
  | ⟨.reference name, m⟩ :: rest => (target? name).map fun n => .event m (.reference n) [] rest
  | t :: rest =>
    let p := Properties.read (t :: rest)
    let tag := p.tag.map (·.resolve? handles)
    if tag == some none then none
    else
      let named := p.anchor.isSome || p.tag.isSome
      (nodeStep? block indentless tag.join t.mark named p.rest).map
        fun (entry, goals, rest) => ⟨[entry], p.anchor, goals, rest⟩

/-- The kind of the next token is one of these. -/
def isNext (kinds : List TokenKind) (ts : List Token) : Bool :=
  ts.head?.any fun t => kinds.contains t.kind

/-- A node that is left out before one of the given tokens, and a node otherwise. -/
def optionalNode (block indentless : Bool) (ends : List TokenKind) (m : Mark) (goals : List Goal)
    (ts : List Token) : Step :=
  if isNext ends ts then .nothing m goals ts else .defer (.node block indentless :: goals) ts

/-- The place of the next token. -/
def nextMark (ts : List Token) : Mark := (ts.head?.map (·.mark)).getD .start

/-- An item of a flow sequence. -/
def flowItem? : List Token → Option Step
  | ⟨.key, m⟩ :: rest => some (.event m (.mappingStart none) [.pairKey, .flowItem false] rest)
  | ⟨.flowSequenceEnd, m⟩ :: rest => some (.event m .sequenceEnd [] rest)
  | rest => some (.defer [.node false false, .flowItem false] rest)

/-- A key of a flow mapping. -/
def flowKey? : List Token → Option Step
  | ⟨.key, _⟩ :: rest =>
    some (optionalNode false false [.value, .flowEntry, .flowMappingEnd] (nextMark rest)
      [.flowValue, .flowKey false] rest)
  | ⟨.flowMappingEnd, m⟩ :: rest => some (.event m .mappingEnd [] rest)
  | rest => some (.defer [.node false false, .flowNothing, .flowKey false] rest)

/-- One step: the goal on top is answered from the tokens; nothing where they break the grammar. -/
def Goal.step? (handles : TagHandles) (target? : String → Option Nat) (g : Goal) (ts : List Token) :
    Option Step :=
  match g, ts with
  | _, [] => none
  | node block indentless, ts => Goal.node? handles target? block indentless ts
  | blockItem, ⟨.blockEntry, m⟩ :: rest =>
    some (optionalNode true false [.blockEntry, .blockEnd] m.next [.blockItem] rest)
  | blockItem, ⟨.blockEnd, m⟩ :: rest => some (.event m .sequenceEnd [] rest)
  | blockItem, _ => none
  | indentlessItem, ⟨.blockEntry, m⟩ :: rest =>
    some (optionalNode true false [.blockEntry, .key, .value, .blockEnd] m.next
      [.indentlessItem] rest)
  | indentlessItem, ⟨kind, m⟩ :: rest => some (.event m .sequenceEnd [] (⟨kind, m⟩ :: rest))
  | blockKey, ⟨.key, m⟩ :: rest =>
    some (optionalNode true true [.key, .value, .blockEnd] m.next [.blockValue, .blockKey] rest)
  | blockKey, ⟨.blockEnd, m⟩ :: rest => some (.event m .mappingEnd [] rest)
  | blockKey, _ => none
  | blockValue, ⟨.value, m⟩ :: rest =>
    some (optionalNode true true [.key, .value, .blockEnd] m.next [] rest)
  | blockValue, ⟨kind, m⟩ :: rest => some (.nothing m [] (⟨kind, m⟩ :: rest))
  | flowItem true, ts => flowItem? ts
  | flowItem false, ⟨.flowSequenceEnd, m⟩ :: rest => some (.event m .sequenceEnd [] rest)
  | flowItem false, ⟨.flowEntry, _⟩ :: rest => flowItem? rest
  | flowItem false, _ => none
  | pairKey, ⟨kind, m⟩ :: rest =>
    if [.value, .flowEntry, .flowSequenceEnd].contains kind then
      some (.nothing m.next [.pairValue, .pairEnd] rest)
    else some (.defer [.node false false, .pairValue, .pairEnd] (⟨kind, m⟩ :: rest))
  | pairValue, ⟨.value, _⟩ :: rest =>
    some (optionalNode false false [.flowEntry, .flowSequenceEnd] (nextMark rest) [] rest)
  | pairValue, ⟨kind, m⟩ :: rest => some (.nothing m [] (⟨kind, m⟩ :: rest))
  | pairEnd, ⟨kind, m⟩ :: rest => some (.event m .mappingEnd [] (⟨kind, m⟩ :: rest))
  | flowKey true, ts => flowKey? ts
  | flowKey false, ⟨.flowMappingEnd, m⟩ :: rest => some (.event m .mappingEnd [] rest)
  | flowKey false, ⟨.flowEntry, _⟩ :: rest => flowKey? rest
  | flowKey false, _ => none
  | flowValue, ⟨.value, _⟩ :: rest =>
    some (optionalNode false false [.flowEntry, .flowMappingEnd] (nextMark rest) [] rest)
  | flowValue, ⟨kind, m⟩ :: rest => some (.nothing m [] (⟨kind, m⟩ :: rest))
  | flowNothing, ⟨kind, m⟩ :: rest => some (.nothing m [] (⟨kind, m⟩ :: rest))

/-! ## 3. Documents -/

/-- A document that is being read: its goals, its events so far and the numbers of those that have
been given names, the latest first. -/
structure Parser where
  goals : List Goal
  entries : Array Entry
  anchors : List (String × Nat)
  rest : List Token

/-- Reads until no goal is left, at most `fuel` steps; the tokens behind the document are given when
it could be read. -/
def Parser.run (handles : TagHandles) : Nat → Parser → List Entry × Option (List Token)
  | 0, p => (p.entries.toList, none)
  | fuel + 1, p => match p.goals with
    | [] => (p.entries.toList, some p.rest)
    | goal :: goals => match goal.step? handles (List.lookup · p.anchors) p.rest with
      | none => (p.entries.toList, none)
      | some step =>
        let anchors := match step.anchor with
          | some name => (name, p.entries.size) :: p.anchors
          | none => p.anchors
        run handles fuel ⟨step.goals ++ goals, p.entries ++ step.entries.toArray, anchors, step.rest⟩

/-- Nothing but the end of the stream follows a document. -/
def endsStream (ts : List Token) : Bool :=
  isNext [.streamEnd] (ts.dropWhile (·.kind == .documentEnd))

/-- Reads the content of a document. A step takes a token or answers a goal that a token left
behind, and no token leaves more than three. -/
def readContent (handles : TagHandles) (ts : List Token) : Reading :=
  match Parser.run handles (8 * ts.length + 8) ⟨[.node true false], #[], [], ts⟩ with
  | (entries, some rest) => ⟨entries, if endsStream rest then .complete else .followed⟩
  | (entries, none) => ⟨entries, .broken⟩

/-- A token that cannot belong to the content of a document. -/
def endsContent : TokenKind → Bool
  | .version .. | .tagHandle .. | .documentStart | .documentEnd | .streamEnd => true
  | _ => false

/-- Reads the directives of a document and its content. There is at most one version, it is 1.1 or
1.2, and no handle is given twice. -/
def readDocument (version : Bool) (handles : TagHandles) : List Token → Reading
  | ⟨.version major minor, _⟩ :: rest =>
    if version || major != 1 || !(minor == 1 || minor == 2) then ⟨[], .broken⟩
    else readDocument true handles rest
  | ⟨.tagHandle handle expansion, _⟩ :: rest =>
    if (handles.map (·.1)).contains handle then ⟨[], .broken⟩
    else readDocument version (handles ++ [(handle, expansion)]) rest
  | ⟨.documentStart, _⟩ :: rest => match rest with
    | [] => ⟨[], .broken⟩
    | t :: _ =>
      if endsContent t.kind then
        ⟨[⟨t.mark, .scalar none .plain ""⟩], if endsStream rest then .complete else .followed⟩
      else readContent (handles ++ .default) rest
  | _ => ⟨[], .broken⟩

/-- Reads the first document of a text. It may begin without a mark when it has no directives; a
text without a document has no events. -/
def Reading.ofText (cs : List Char) : Reading :=
  let ts := Token.ofText cs
  match ts with
  | [] => ⟨[], .broken⟩
  | ⟨.streamEnd, _⟩ :: _ => ⟨[], .complete⟩
  | ⟨kind, _⟩ :: _ =>
    if endsContent kind && kind != .documentEnd then readDocument false [] ts
    else readContent .default ts

end Stencil.Yaml
