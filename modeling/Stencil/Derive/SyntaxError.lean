/-!
# What can be wrong with the form of a declaration

A reader of token trees names what it expected. At the end of what it reads the wording says so.
-/

namespace Stencil.Derive

/-- What was expected. -/
inductive Wanted where
  | identifier
  | comma
  | expression
  | segment
  deriving DecidableEq, Repr

/-- The wording of what was expected. -/
def Wanted.text : Wanted → String
  | identifier => "expected identifier"
  | comma => "expected `,`"
  | expression => "expected an expression"
  | segment => "expected path segment after `::`"

/-- What is wrong with the form of a declaration. -/
inductive SyntaxError where
  /-- Something else stands where something was expected, or nothing does. -/
  | expected (wanted : Wanted) (atEnd : Bool)
  /-- A keyword stands where an identifier was expected. -/
  | keyword (name : String)
  /-- An attribute stands where the value of an attribute was expected. -/
  | nestedAttribute
  /-- Something is left over. -/
  | unexpectedToken
  /-- The text cannot be cut into token trees. -/
  | unreadable
  deriving DecidableEq, Repr

/-- The wording of a syntax error. -/
def SyntaxError.message : SyntaxError → String
  | expected wanted atEnd => (if atEnd then "unexpected end of input, " else "") ++ wanted.text
  | keyword name => s!"expected identifier, found keyword `{name}`"
  | nestedAttribute => "unexpected attribute inside of attribute"
  | unexpectedToken => "unexpected token"
  | unreadable => "cannot parse string into token stream"

end Stencil.Derive
