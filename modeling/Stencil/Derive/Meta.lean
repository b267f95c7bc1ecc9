import Stencil.Derive.SyntaxError
import Stencil.Derive.Tree

/-!
# Attribute items

The content of an attribute, and each item of its arguments, is a name that stands alone, has a
value, or has arguments of its own in brackets. Items are divided by commas, and a comma may stand
behind the last one.

Readers take trees from the front and give the rest. `terminated` reads a whole list of items;
`terminated_nil` and `terminated_of_comma` are its laws.
-/

namespace Stencil.Derive

/-! ## 1. Lists -/

/-- What a reader gives: what it read and the rest, or what is wrong. -/
abbrev Reads (α : Type) := Except SyntaxError (α × List Tree)

/-- Reads a list to its end: items divided by commas, with or without one behind the last. A reader
of items that takes nothing ends the list. -/
def terminated {α : Type} (item : List Tree → Reads α) : List Tree → Except SyntaxError (List α)
  | [] => .ok []
  | t :: ts => match item (t :: ts) with
    | .error e => .error e
    | .ok (a, []) => .ok [a]
    | .ok (a, u :: rest) =>
      if !u.isSign ',' then .error (.expected .comma false)
      else if _h : rest.length < (t :: ts).length then match terminated item rest with
        | .ok as => .ok (a :: as)
        | .error e => .error e
      else .ok [a]
termination_by ts => ts.length
decreasing_by exact _h

@[simp] theorem terminated_nil {α : Type} (item : List Tree → Reads α) :
    terminated item [] = .ok [] := by
  rw [terminated]

/-- An item before a comma stands in front of the items behind it. -/
theorem terminated_of_comma {α : Type} {item : List Tree → Reads α} {ts rest : List Tree} {a : α}
    {joint : Bool} (h : item ts = .ok (a, .sign ',' joint :: rest)) (hl : rest.length < ts.length) :
    terminated item ts = (terminated item rest).map (a :: ·) := by
  cases ts with
  | nil => simp at hl
  | cons t ts =>
    rw [terminated, h]
    simp only [Tree.isSign, BEq.rfl, Bool.not_true, Bool.false_eq_true, ↓reduceIte, hl, ↓reduceDIte]
    cases terminated item rest <;> rfl

/-- An item at the end is the last one. -/
theorem terminated_of_end {α : Type} {item : List Tree → Reads α} {t : Tree} {ts : List Tree} {a : α}
    (h : item (t :: ts) = .ok (a, [])) : terminated item (t :: ts) = .ok [a] := by
  rw [terminated, h]

/-! ## 2. Identifiers and names -/

/-- What is wrong when no identifier stands in front. -/
def identifierError : List Tree → SyntaxError
  | .word w :: _ => .keyword w.name
  | ts => .expected .identifier ts.isEmpty

/-- Reads an identifier. -/
def readIdentifier : List Tree → Reads Word
  | .word w :: rest => if w.isIdentifier then .ok (w, rest) else .error (.keyword w.name)
  | ts => .error (identifierError ts)

/-- A name: words with two colons between each two, and perhaps in front. -/
structure QualifiedName where
  absolute : Bool
  words : List Word
  deriving DecidableEq, Repr

/-- The name is this one word and nothing else. -/
def QualifiedName.is (n : QualifiedName) (name : String) : Bool :=
  n == ⟨false, [.plain name]⟩

/-- A word that may stand in a name: an identifier, or one of the words for a place. -/
def isNameWord (w : Word) : Bool :=
  w.isIdentifier || ["super", "self", "Self", "crate"].contains w.name

/-- The trees behind two colons in front. -/
def afterColons? : List Tree → Option (List Tree)
  | t :: u :: rest => if t.isJoint ':' && u.isSign ':' then some rest else none
  | _ => none

/-- What is wrong when no word of a name stands in front, be it the first or a further one. -/
def nameError (first : Bool) (ts : List Tree) : SyntaxError :=
  if first then identifierError ts else .expected .segment ts.isEmpty

/-- Reads the words of a name from the first one or from a further one on. -/
def readWords (first : Bool) : List Tree → Reads (List Word)
  | [.word w] => if isNameWord w then .ok ([w], []) else .error (nameError first [.word w])
  | [.word w, t] =>
    if isNameWord w then .ok ([w], [t]) else .error (nameError first [.word w, t])
  | .word w :: t :: u :: rest =>
    if !isNameWord w then .error (nameError first (.word w :: t :: u :: rest))
    else if t.isJoint ':' && u.isSign ':' then match readWords false rest with
      | .ok (ws, rest) => .ok (w :: ws, rest)
      | .error e => .error e
    else .ok ([w], t :: u :: rest)
  | ts => .error (nameError first ts)

/-- Reads a name behind the two colons it may begin with. -/
def readNameFrom (absolute : Bool) (ts : List Tree) : Reads QualifiedName :=
  match readWords true ts with
  | .ok (ws, rest) => .ok (⟨absolute, ws⟩, rest)
  | .error e => .error e

/-- Reads a name. -/
def readName (ts : List Tree) : Reads QualifiedName :=
  match afterColons? ts with
  | some rest => readNameFrom true rest
  | none => readNameFrom false ts

/-! ## 3. Expressions -/

/-- A sign that stands between two operands, or begins an operator that does. -/
def isOperator (c : Char) : Bool := "+-*/%^&|<>=".toList.contains c

/-- A sign that stands before an operand. -/
def isPrefixSign (c : Char) : Bool := "-!*&".toList.contains c

/-- A word that stands for an operand: an identifier, a word for a place, or a truth value. -/
def isOperand (w : Word) : Bool := isNameWord w || ["true", "false", "_"].contains w.name

/-- The keywords that begin an expression. -/
def expressionKeywords : List String :=
  ["async", "become", "break", "const", "continue", "for", "if", "let", "loop", "match", "move",
   "return", "static", "try", "unsafe", "while", "yield"]

/-- What a reader of expressions has in front of it. -/
inductive Place where
  /-- An operand is wanted. -/
  | operand
  /-- An operator may follow what has been read. -/
  | operator
  /-- The same behind a name, which may be called as a macro or begin a record. -/
  | name
  deriving DecidableEq, Repr

/-- Reads an expression and forgets it. Only its extent matters: from the first operand on it goes
as long as operators join operands. Control words, closures and casts reach to the next comma. -/
def skipExpression : Place → List Tree → Except SyntaxError (List Tree)
  | .operand, [] => .error (.expected .expression true)
  | _, [] => .ok []
  | .operand, t :: ts => match t with
    | .word w =>
      if isOperand w then skipExpression .name ts
      else if expressionKeywords.contains w.name then .ok (ts.dropWhile (!·.isSign ','))
      else .error (.expected .expression false)
    | .string .. | .literal _ => skipExpression .operator ts
    | .group .. => skipExpression .operator ts
    | .lifetime _ => .ok (ts.dropWhile (!·.isSign ','))
    | .sign c _ =>
      if isPrefixSign c || c == ':' then skipExpression .operand ts
      else if c == '|' || c == '<' || c == '.' then .ok (ts.dropWhile (!·.isSign ','))
      else .error (.expected .expression false)
  | place, t :: ts => match t with
    | .word w =>
      if w == .plain "as" then .ok (ts.dropWhile (!·.isSign ',')) else .ok (t :: ts)
    | .group .curly _ =>
      if place = .name then skipExpression .operator ts else .ok (t :: ts)
    | .group .. => skipExpression .operator ts
    | .sign c joint =>
      if c == '?' then skipExpression .operator ts
      else if c == '.' && joint then .ok (ts.dropWhile (!·.isSign ','))
      else if c == '.' then skipExpression .operand ts
      else if c == ':' && joint && place == .name then skipExpression .operand ts
      else if c == '!' && joint && ts.head?.any (·.isSign '=') then skipExpression .operator ts
      else if c == '!' && place == .name then skipExpression .name ts
      else if c == '=' && joint && ts.head?.any (·.isSign '>') then .ok (t :: ts)
      else if isOperator c && joint && ts.head?.any (fun u => match u with
          | .sign d _ => isOperator d && !isPrefixSign d
          | _ => false) then skipExpression .operator ts
      else if isOperator c then skipExpression .operand ts
      else .ok (t :: ts)
    | _ => .ok (t :: ts)

/-- The value of an attribute item. -/
inductive MetaValue where
  /-- A text literal and nothing else, by what it says. -/
  | string (value : String)
  /-- Any other expression. -/
  | expression
  deriving DecidableEq, Repr

/-- An item ends here: nothing follows, or a comma does. -/
def endsItem : List Tree → Bool
  | [] => true
  | t :: _ => t.isSign ','

/-- Reads the value of an attribute item behind its equals sign. -/
def readValue : List Tree → Reads MetaValue
  | .string s _ :: rest =>
    if endsItem rest then .ok (.string s, rest)
    else (skipExpression .operator rest).map fun rest => (.expression, rest)
  | .sign '#' _ :: .group .square _ :: _ => .error .nestedAttribute
  | ts => (skipExpression .operand ts).map fun rest => (.expression, rest)

/-! ## 4. Items -/

/-- An attribute item. -/
inductive Meta where
  /-- A name alone. -/
  | alone (name : QualifiedName)
  /-- A name with arguments in brackets. -/
  | list (name : QualifiedName) (bracket : Bracket) (arguments : List Tree)
  /-- A name with a value. -/
  | valued (name : QualifiedName) (value : MetaValue)
  deriving Repr

/-- The name of an attribute item. -/
def Meta.name : Meta → QualifiedName
  | alone name => name
  | list name _ _ => name
  | valued name _ => name

/-- Reads what follows the name of an attribute item. -/
def Meta.readBehind (name : QualifiedName) : List Tree → Reads Meta
  | .group b arguments :: rest => .ok (.list name b arguments, rest)
  | .sign c joint :: rest =>
    if c = '=' then match readValue rest with
      | .ok (v, rest) => .ok (.valued name v, rest)
      | .error e => .error e
    else .ok (.alone name, .sign c joint :: rest)
  | rest => .ok (.alone name, rest)

/-- Reads the name of an attribute item: a name, or one keyword that may stand there. -/
def readItemName (ts : List Tree) : Reads QualifiedName :=
  match ts with
  | .word ⟨false, "unsafe"⟩ :: rest => .ok (⟨false, [.plain "unsafe"]⟩, rest)
  | ts => readName ts

/-- Reads an attribute item. -/
def Meta.read (ts : List Tree) : Reads Meta :=
  match readItemName ts with
  | .ok (name, rest) => readBehind name rest
  | .error e => .error e

/-- Reads the content of an attribute, which is one item and nothing more. -/
def Meta.readWhole (ts : List Tree) : Except SyntaxError Meta :=
  match Meta.read ts with
  | .ok (m, []) => .ok m
  | .ok _ => .error .unexpectedToken
  | .error e => .error e

end Stencil.Derive
