import Stencil.Number

/-!
# Documents

A document is structured data: scalars, arrays, and objects whose members are kept in the order of
their names, each name once. `Document.text` is its compact textual form.

Numbers of documents are normal: an integer is signed when it fits (`Document.ofInt?`), and there
is no number for what is not finite (`Document.ofDouble`).
-/

namespace Stencil

open Numeric

/-- Structured data. -/
inductive Document where
  | null
  | bool (b : Bool)
  | number (n : Number)
  | string (s : String)
  | array (items : List Document)
  | object (members : List (String × Document))

namespace Document

/-- The word for the kind of a document. -/
def kind : Document → String
  | null => "null"
  | bool _ => "bool"
  | number _ => "number"
  | string _ => "string"
  | array _ => "array"
  | object _ => "object"

/-! ## 1. Building -/

/-- The document of an integer, if 64 bits hold it. -/
def ofInt? (n : Int) : Option Document := (Number.ofInt? n).map number

/-- The document of a floating-point number: null when it is not finite. -/
def ofDouble (x : Double) : Document := if x.isFinite then number (.float x) else null

/-- Members in the order of their names with one more; a member of the same name is replaced. -/
def insertMember (name : String) (d : Document) :
    List (String × Document) → List (String × Document)
  | [] => [(name, d)]
  | (key, e) :: members =>
    if name < key then (name, d) :: (key, e) :: members
    else if name = key then (name, d) :: members
    else (key, e) :: insertMember name d members

/-- The object with the given members, the last one of each name. -/
def ofMembers (members : List (String × Document)) : Document :=
  object (members.foldl (fun ms m => insertMember m.1 m.2 ms) [])

/-- The member of a name. -/
def member? (name : String) : List (String × Document) → Option Document
  | [] => none
  | (key, d) :: members => if key = name then some d else member? name members

/-! ## 2. Text -/

/-- A lower-case hexadecimal digit. -/
def hexDigit (n : Nat) : Char := Nat.digitChar n

/-- One character inside quotes: quotes, backslashes and the characters below U+0020 are escaped,
five of them with a letter. -/
def escapeChar (c : Char) : List Char :=
  if c = '"' then ['\\', '"']
  else if c = '\\' then ['\\', '\\']
  else if c.toNat = 0x08 then ['\\', 'b']
  else if c.toNat = 0x0C then ['\\', 'f']
  else if c = '\n' then ['\\', 'n']
  else if c = '\r' then ['\\', 'r']
  else if c = '\t' then ['\\', 't']
  else if c.toNat < 0x20 then
    ['\\', 'u', '0', '0', hexDigit (c.toNat / 16), hexDigit (c.toNat % 16)]
  else [c]

/-- A text in quotes. -/
def quote (s : String) : String := String.ofList ('"' :: s.toList.flatMap escapeChar ++ ['"'])

mutual

/-- The compact text of a document: no blanks, members in the order of their names. -/
def text : Document → String
  | null => "null"
  | bool true => "true"
  | bool false => "false"
  | number n => n.textIn Number.documentLayout
  | string s => quote s
  | array items => "[" ++ textItems items ++ "]"
  | object members => "\x7b" ++ textMembers members ++ "\x7d"

/-- The items of an array, with commas between them. -/
def textItems : List Document → String
  | [] => ""
  | [d] => text d
  | d :: items => text d ++ "," ++ textItems items

/-- The members of an object, with commas between them. -/
def textMembers : List (String × Document) → String
  | [] => ""
  | [(name, d)] => quote name ++ ":" ++ text d
  | (name, d) :: members => quote name ++ ":" ++ text d ++ "," ++ textMembers members

end

end Document

end Stencil
