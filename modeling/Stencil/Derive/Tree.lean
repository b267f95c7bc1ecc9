import Stencil.Text.Blank

/-!
# Token trees

The source text of a declaration is a row of token trees: words, signs, literals, and groups in
brackets, which hold rows of their own. `Tree.rowText` writes a row without any white space.
-/

namespace Stencil.Derive

/-! ## 1. Words -/

/-- A word. A raw word is marked by `r#` in the source, which takes nothing from its name but lets
it be a name where the plain word would be a keyword. -/
structure Word where
  raw : Bool
  name : String
  deriving DecidableEq, Repr

/-- The words that are no identifiers unless they are raw. -/
def keywords : List String :=
  ["_", "abstract", "as", "async", "await", "become", "box", "break", "const", "continue", "crate",
   "do", "dyn", "else", "enum", "extern", "false", "final", "fn", "for", "if", "impl", "in", "let",
   "loop", "macro", "match", "mod", "move", "mut", "override", "priv", "pub", "ref", "return",
   "Self", "self", "static", "struct", "super", "trait", "true", "try", "type", "typeof", "unsafe",
   "unsized", "use", "virtual", "where", "while", "yield"]

namespace Word

/-- The word without the mark of a raw word. -/
def plain (name : String) : Word := ⟨false, name⟩

/-- The word as it stands in the source. -/
def text (w : Word) : String := (if w.raw then "r#" else "") ++ w.name

/-- The word is an identifier. -/
def isIdentifier (w : Word) : Bool := w.raw || !keywords.contains w.name

end Word

/-! ## 2. Trees -/

/-- A pair of brackets. -/
inductive Bracket where
  | round
  | square
  | curly
  deriving DecidableEq, Repr

/-- The character that opens a pair of brackets. -/
def Bracket.openChar : Bracket → Char
  | round => '('
  | square => '['
  | curly => '\x7b'

/-- The character that closes a pair of brackets. -/
def Bracket.closeChar : Bracket → Char
  | round => ')'
  | square => ']'
  | curly => '\x7d'

/-- A token tree. -/
inductive Tree where
  | word (w : Word)
  | lifetime (name : String)
  /-- A sign; `joint` says that another one follows without white space between them. -/
  | sign (c : Char) (joint : Bool)
  /-- A text literal, by what it says and as it is written. -/
  | string (value written : String)
  /-- Any other literal, as it is written. -/
  | literal (written : String)
  | group (bracket : Bracket) (content : List Tree)
  deriving Repr

namespace Tree

/-- The tree is this sign, whatever follows. -/
def isSign (c : Char) : Tree → Bool
  | sign d _ => d == c
  | _ => false

/-- The tree is this sign with another one right behind it. -/
def isJoint (c : Char) : Tree → Bool
  | sign d joint => d == c && joint
  | _ => false

mutual

/-- The characters of a tree, without white space. -/
def chars : Tree → List Char
  | word w => w.text.toList
  | lifetime name => '\'' :: name.toList
  | sign c _ => [c]
  | string _ written => written.toList.filter (!Text.isBlank ·)
  | literal written => written.toList.filter (!Text.isBlank ·)
  | group b content => b.openChar :: (rowChars content ++ [b.closeChar])

/-- The characters of a row of trees, without white space. -/
def rowChars : List Tree → List Char
  | [] => []
  | t :: ts => chars t ++ rowChars ts

end

/-- The text of a row of trees, without white space. -/
def rowText (ts : List Tree) : String := String.ofList (rowChars ts)

end Tree

end Stencil.Derive
