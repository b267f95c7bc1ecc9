import Stencil.Yaml.ScalarText

/-!
# Tokens

A file is cut into tokens: indicators, scalars, and the beginnings and ends of block collections,
which are told by indentation alone. A token that may turn out to be a key is remembered until the
colon behind it is met on the same line; then the marks of a key, and where need be of a mapping,
are put in front of it.

`Lexer.step?` reads one token and `Token.ofText` all of them, up to the end of the text or to where
it cannot be read.
-/

namespace Stencil.Yaml

open Numeric

/-! ## 1. Tokens -/

/-- A handle and what follows it, as a tag is written. -/
structure TagText where
  handle : String
  suffix : String
  deriving DecidableEq, Repr

/-- What a token is. -/
inductive TokenKind where
  | version (major minor : Nat)
  | tagHandle (handle expansion : String)
  | documentStart
  | documentEnd
  | blockSequence
  | blockMapping
  | blockEnd
  | flowSequence
  | flowSequenceEnd
  | flowMapping
  | flowMappingEnd
  | blockEntry
  | flowEntry
  | key
  | value
  | reference (name : String)
  | anchor (name : String)
  | tag (text : TagText)
  | scalar (style : ScalarStyle) (text : String)
  | streamEnd
  deriving DecidableEq, Repr

/-- A token in its place. -/
structure Token where
  kind : TokenKind
  mark : Mark
  deriving DecidableEq, Repr

/-- A token that may turn out to be a key. -/
structure PendingKey where
  /-- The number of tokens before it. -/
  position : Nat
  mark : Mark
  /-- It stands where only a key may stand. -/
  required : Bool
  deriving DecidableEq, Repr

/-- A key stands in one line and is at most 1024 characters long. -/
def PendingKey.reaches (k : PendingKey) (m : Mark) : Bool :=
  k.mark.line == m.line && m.index ≤ k.mark.index + 1024

/-- A text that is being cut into tokens. -/
structure Lexer where
  rest : List Spot
  /-- The place behind the text. -/
  stop : Mark
  tokens : Array Token
  /-- The columns of the open block collections, the innermost first. -/
  columns : List Nat
  /-- The token that may be a key of the innermost collection. -/
  key : Option PendingKey
  /-- The same for the collections around the open flow collections, the innermost first. -/
  outerKeys : List (Option PendingKey)
  /-- Whether the next token may be a key. -/
  keyAllowed : Bool

namespace Lexer

/-! ## 2. The state -/

/-- The state before the first token. A byte order mark is no part of the text, but takes up a
column. -/
def start (cs : List Char) : Lexer :=
  let xs := Spot.ofText .start cs
  let rest := match xs with
    | ⟨'\ufeff', _⟩ :: rest => rest
    | xs => xs
  ⟨rest, Spot.stop xs, #[], [], none, [], true⟩

/-- The place of the next character. -/
def mark (s : Lexer) : Mark :=
  match s.rest with
  | x :: _ => x.mark
  | [] => s.stop

/-- The lexer is inside a flow collection. -/
def inFlow (s : Lexer) : Bool := !s.outerKeys.isEmpty

/-- The column from which the contents of the innermost block collection are indented. -/
def least (s : Lexer) : Nat :=
  match s.columns with
  | [] => 0
  | column :: _ => column + 1

/-- The state with one more token. -/
def push (s : Lexer) (kind : TokenKind) (mark : Mark) : Lexer :=
  { s with tokens := s.tokens.push ⟨kind, mark⟩ }

/-- The state with a token put in behind the first `position` ones. -/
def insertToken (s : Lexer) (position : Nat) (kind : TokenKind) (mark : Mark) : Lexer :=
  { s with tokens :=
      s.tokens.extract 0 position ++ #[⟨kind, mark⟩] ++ s.tokens.extract position s.tokens.size }

/-- Ends the block collections that stand deeper than a column; all of them when there is none. -/
def closeTo (s : Lexer) (column? : Option Nat) : Lexer :=
  if s.inFlow then s
  else
    let deeper := fun column => column?.all (· < column)
    let ends := (s.columns.takeWhile deeper).map fun _ => (⟨.blockEnd, s.mark⟩ : Token)
    { s with tokens := s.tokens ++ ends.toArray, columns := s.columns.dropWhile deeper }

/-- Begins a block collection at a column that is deeper than the open ones, in front of the token
at `position`. -/
def openBlock (s : Lexer) (kind : TokenKind) (mark : Mark) (position : Nat) : Lexer :=
  if s.inFlow || !s.columns.head?.all (· < mark.column) then s
  else { s.insertToken position kind mark with columns := mark.column :: s.columns }

/-- Forgets the token that might have been a key, unless it had to be one. -/
def dropKey? (s : Lexer) : Option Lexer :=
  match s.key with
  | some k => if k.required then none else some { s with key := none }
  | none => some s

/-- Remembers the next token as one that may be a key, where one may stand. -/
def noteKey? (s : Lexer) : Option Lexer :=
  if s.keyAllowed then
    s.dropKey?.map fun s =>
      let required := !s.inFlow && s.columns.head? == some s.mark.column
      { s with key := some ⟨s.tokens.size, s.mark, required⟩ }
  else some s

/-- Forgets the keys that are out of reach, unless one of them had to be a key. -/
def dropStale? (s : Lexer) : Option Lexer :=
  let stale : Option PendingKey → Bool := fun k => k.any fun k => !k.reaches s.mark
  let keep : Option PendingKey → Option PendingKey := fun k => k.filter fun k => k.reaches s.mark
  if (s.key :: s.outerKeys).any fun k => stale k && k.any (·.required) then none
  else some { s with key := keep s.key, outerKeys := s.outerKeys.map keep }

/-- The tokens that do not wait for a key to be made out. -/
def settled (s : Lexer) : List Token :=
  let waits : PendingKey → Bool := fun k => k.required || k.reaches s.mark
  let positions := ((s.key :: s.outerKeys).filterMap id).filterMap fun k =>
    if waits k then some k.position else none
  s.tokens.toList.take (positions.foldl min s.tokens.size)

/-! ## 3. White space and directives -/

/-- Drops white space and comments; `comment` says that a comment has begun. Whether a key may
follow is told too: outside of flow collections a line break allows it. A tab is white space only
where no key may stand. -/
def dropSpace (inFlow : Bool) : Bool → Bool → List Spot → Bool × List Spot
  | allowed, _, [] => (allowed, [])
  | allowed, comment, x :: xs =>
    if isBreak x.char then dropSpace inFlow (allowed || !inFlow) false xs
    else if comment then dropSpace inFlow allowed true xs
    else if x.char = ' ' ∨ x.char = '\t' ∧ (inFlow ∨ !allowed) then
      dropSpace inFlow allowed false xs
    else if x.char = '#' then dropSpace inFlow allowed true xs
    else (allowed, x :: xs)

/-- The state behind white space and comments. -/
def skipSpace (s : Lexer) : Lexer :=
  let (allowed, rest) := dropSpace s.inFlow s.keyAllowed false s.rest
  { s with rest := rest, keyAllowed := allowed }

/-- A character of names in a file. -/
def isWordChar (c : Char) : Bool := c.isAlphanum || c == '-' || c == '_'

/-- Reads a number of at most nine digits. -/
def readVersionNumber (xs : List Spot) : Option (Nat × List Spot) :=
  let ds := Spot.chars (xs.takeWhile (·.char.isDigit))
  if ds.isEmpty || 9 < ds.length then none
  else some (ds.foldl (fun n c => 10 * n + (c.toNat - '0'.toNat)) 0,
    xs.dropWhile (·.char.isDigit))

/-- A character of a tag. -/
def isTagChar (verbatim : Bool) (c : Char) : Bool :=
  isWordChar c || ";/?:@&=+$.!~*'()".toList.contains c || verbatim && ",[]".toList.contains c

/-- Reads the characters of a tag, escapes included. The bytes of an escape stand for themselves
when they are ASCII. -/
def readTagChars (verbatim : Bool) (xs : List Spot) : Option (List Char × List Spot) :=
  match xs with
  | [] => some ([], [])
  | x :: xs =>
    if isTagChar verbatim x.char then
      (readTagChars verbatim xs).map fun (cs, rest) => (x.char :: cs, rest)
    else if x.char = '%' then match xs with
      | a :: b :: xs => match naturalOf? 16 [a.char, b.char] with
        | some n =>
          if n < 0x80 then
            (readTagChars verbatim xs).map fun (cs, rest) => (Char.ofNat n :: cs, rest)
          else none
        | none => none
      | _ => none
    else some ([], x :: xs)

/-- Reads the handle of a tag behind its exclamation mark: `!`, or `!name!`; anything else belongs
to the suffix. -/
def readTagHandle (xs : List Spot) : List Char × List Spot :=
  let name := xs.takeWhile (isWordChar ·.char)
  match xs.dropWhile (isWordChar ·.char) with
  | ⟨'!', _⟩ :: rest => ('!' :: Spot.chars name ++ ['!'], rest)
  | _ => (['!'], xs)

/-- Reads a tag behind its exclamation mark. -/
def readTag? (xs : List Spot) : Option (TagText × List Spot) :=
  match xs with
  | ⟨'<', _⟩ :: xs => match readTagChars true xs with
    | some (c :: cs, ⟨'>', _⟩ :: rest) => some (⟨"", String.ofList (c :: cs)⟩, rest)
    | _ => none
  | xs =>
    let (handle, rest) := readTagHandle xs
    match readTagChars false rest with
    | none => none
    | some ([], rest) => if handle = ['!'] then some (⟨"", "!"⟩, rest) else none
    | some (cs, rest) => some (⟨String.ofList handle, String.ofList cs⟩, rest)

/-- Reads the content of a directive behind its name. -/
def readDirective? (name : String) (xs : List Spot) : Option (TokenKind × List Spot) :=
  let xs := xs.dropWhile (isBlank ·.char)
  match name with
  | "YAML" => match readVersionNumber xs with
    | some (major, ⟨'.', _⟩ :: xs) =>
      (readVersionNumber xs).map fun (minor, rest) => (.version major minor, rest)
    | _ => none
  | "TAG" => match xs with
    | ⟨'!', _⟩ :: xs =>
      let (handle, rest) := readTagHandle xs
      if !rest.head?.any (isBlank ·.char) then none
      else match readTagChars true (rest.dropWhile (isBlank ·.char)) with
        | some (c :: cs, rest) =>
          if isSpaceOrEnd rest.head? then
            some (.tagHandle (String.ofList handle) (String.ofList (c :: cs)), rest)
          else none
        | _ => none
    | _ => none
  | _ => none

/-- Reads a directive behind its percent sign. -/
def directive? (s : Lexer) (mark : Mark) (xs : List Spot) : Option Lexer :=
  let name := Spot.chars (xs.takeWhile (isWordChar ·.char))
  let xs := xs.dropWhile (isWordChar ·.char)
  if !isSpaceOrEnd xs.head? then none
  else match (s.closeTo none).dropKey?, readDirective? (String.ofList name) xs with
    | some s, some (kind, rest) =>
      (skipLineEnd rest).map fun rest =>
        { s.push kind mark with rest := rest, keyAllowed := false }
    | _, _ => none

/-! ## 4. One token -/

/-- A line that begins or ends a document. -/
def documentMark? (s : Lexer) (kind : TokenKind) : Option Lexer :=
  (s.closeTo none).dropKey?.map fun s =>
    { s.push kind s.mark with rest := s.rest.drop 3, keyAllowed := false }

/-- The beginning of a flow collection. -/
def openFlow? (s : Lexer) (kind : TokenKind) (rest : List Spot) : Option Lexer :=
  s.noteKey?.map fun s =>
    { s.push kind s.mark with
      rest := rest, key := none, outerKeys := s.key :: s.outerKeys, keyAllowed := true }

/-- The end of a flow collection. Where none is open the token is left to the grammar. -/
def closeFlow? (s : Lexer) (kind : TokenKind) (rest : List Spot) : Option Lexer :=
  s.dropKey?.map fun s =>
    let s := { s.push kind s.mark with rest := rest, keyAllowed := false }
    match s.outerKeys with
    | key :: outer => { s with key := key, outerKeys := outer }
    | [] => s

/-- A comma between the items of a flow collection. -/
def flowEntry? (s : Lexer) (rest : List Spot) : Option Lexer :=
  s.dropKey?.map fun s => { s.push .flowEntry s.mark with rest := rest, keyAllowed := true }

/-- A dash before an item, or a question mark before a key. Outside of flow collections it may
begin a block collection, where a key may stand. -/
def blockMark? (s : Lexer) (collection kind : TokenKind) (allowed : Bool) (rest : List Spot) :
    Option Lexer :=
  if !s.inFlow && !s.keyAllowed then none
  else (s.openBlock collection s.mark s.tokens.size).dropKey?.map fun s =>
    { s.push kind s.mark with rest := rest, keyAllowed := allowed }

/-- A colon before a value. The token that waits is now known to be a key. -/
def value? (s : Lexer) (rest : List Spot) : Option Lexer :=
  match s.key with
  | some k =>
    let s := (s.insertToken k.position .key k.mark).openBlock .blockMapping k.mark k.position
    some { s.push .value s.mark with rest := rest, key := none, keyAllowed := false }
  | none =>
    if !s.inFlow && !s.keyAllowed then none
    else
      let s' := s.openBlock .blockMapping s.mark s.tokens.size
      some { s'.push .value s.mark with rest := rest, keyAllowed := !s.inFlow }

/-- A name behind an ampersand or an asterisk. -/
def name? (s : Lexer) (kind : String → TokenKind) (rest : List Spot) : Option Lexer :=
  let name := Spot.chars (rest.takeWhile (isWordChar ·.char))
  let rest := rest.dropWhile (isWordChar ·.char)
  let ends := isSpaceOrEnd rest.head? || rest.head?.any fun x => "?:,]\x7d%@\x60".toList.contains x.char
  if name.isEmpty || !ends then none
  else s.noteKey?.map fun s =>
    { s.push (kind (String.ofList name)) s.mark with rest := rest, keyAllowed := false }

/-- A tag behind its exclamation mark. -/
def tag? (s : Lexer) (rest : List Spot) : Option Lexer :=
  match s.noteKey?, readTag? rest with
  | some s, some (text, rest) =>
    let ends := isSpaceOrEnd rest.head? || s.inFlow && rest.head?.any (·.char == ',')
    if ends then some { s.push (.tag text) s.mark with rest := rest, keyAllowed := false } else none
  | _, _ => none

/-- A block scalar behind its sign. -/
def block? (s : Lexer) (style : ScalarStyle) (rest : List Spot) : Option Lexer :=
  match s.dropKey?, readBlock (style == .folded) s.least rest with
  | some s, some (text, rest) =>
    some { s.push (.scalar style (String.ofList text)) s.mark with rest := rest, keyAllowed := true }
  | _, _ => none

/-- A quoted scalar behind its quote. -/
def quoted? (s : Lexer) (style : ScalarStyle) (rest : List Spot) : Option Lexer :=
  match s.noteKey?, readQuoted (style == .doubleQuoted) (rest.length + 1) rest with
  | some s, some (text, rest) =>
    some { s.push (.scalar style (String.ofList text)) s.mark with
      rest := rest, keyAllowed := false }
  | _, _ => none

/-- A plain scalar. -/
def plain? (s : Lexer) : Option Lexer :=
  match s.noteKey?, readPlain s.inFlow s.least (s.rest.length + 1) s.rest with
  | some s, some (text, broken, rest) =>
    some { s.push (.scalar .plain (String.ofList text)) s.mark with
      rest := rest, keyAllowed := broken }
  | _, _ => none

/-- A character that begins something other than a plain scalar. -/
def isIndicator (c : Char) : Bool := "-?:,[]\x7b\x7d#&*!|>'\"%@\x60".toList.contains c

/-- A plain scalar may begin with the character. -/
def startsPlain (inFlow : Bool) (c : Char) (next : Option Spot) : Bool :=
  !(isSpace c || isIndicator c) || c == '-' && !next.any (isBlank ·.char) ||
    !inFlow && (c == '?' || c == ':') && !isSpaceOrEnd next

/-- Reads the token that begins with a character. -/
def token? (s : Lexer) (x : Spot) (rest : List Spot) : Option Lexer :=
  let spaceAhead := isSpaceOrEnd rest.head?
  if x.mark.column = 0 ∧ x.char = '%' then s.directive? x.mark rest
  else if Spot.isRule '-' s.rest then s.documentMark? .documentStart
  else if Spot.isRule '.' s.rest then s.documentMark? .documentEnd
  else if x.char = '[' then s.openFlow? .flowSequence rest
  else if x.char = '\x7b' then s.openFlow? .flowMapping rest
  else if x.char = ']' then s.closeFlow? .flowSequenceEnd rest
  else if x.char = '\x7d' then s.closeFlow? .flowMappingEnd rest
  else if x.char = ',' then s.flowEntry? rest
  else if x.char = '-' ∧ spaceAhead then s.blockMark? .blockSequence .blockEntry true rest
  else if x.char = '?' ∧ (s.inFlow ∨ spaceAhead) then
    s.blockMark? .blockMapping .key (!s.inFlow) rest
  else if x.char = ':' ∧ (s.inFlow ∨ spaceAhead) then s.value? rest
  else if x.char = '*' then s.name? .reference rest
  else if x.char = '&' then s.name? .anchor rest
  else if x.char = '!' then s.tag? rest
  else if x.char = '|' ∧ !s.inFlow then s.block? .literal rest
  else if x.char = '>' ∧ !s.inFlow then s.block? .folded rest
  else if x.char = '\'' then s.quoted? .singleQuoted rest
  else if x.char = '"' then s.quoted? .doubleQuoted rest
  else if startsPlain s.inFlow x.char rest.head? then s.plain?
  else none

/-! ## 5. All tokens -/

/-- Reads one token; nothing where the text breaks a rule. -/
def step? (s : Lexer) : Option Lexer :=
  match s.skipSpace.dropStale? with
  | none => none
  | some s =>
    let s := s.closeTo (some s.mark.column)
    match s.rest with
    | x :: rest => s.token? x rest
    | [] => (s.closeTo none).dropKey?.map fun s => s.push .streamEnd s.mark

/-- The tokens up to the end of the text, or up to where it cannot be read; at most `fuel` steps
are made. -/
def run : Nat → Lexer → List Token
  | 0, s => s.settled
  | fuel + 1, s => match s.step? with
    | none => s.settled
    | some s' =>
      if s'.tokens.back?.any (·.kind == .streamEnd) then s'.tokens.toList else run fuel s'

end Lexer

/-- The tokens of a text: the last of them is the end of the stream exactly when the whole text can
be read. Every step but the last takes a character. -/
def Token.ofText (cs : List Char) : List Token :=
  if cs.all isAllowed then (Lexer.start cs).run (cs.length + 1) else []

end Stencil.Yaml
