import Stencil.Derive.Meta
import Stencil.Text.Identifier

/-!
# Options

The attributes named `introspect` steer what is derived. On a field they leave it out or give it
another name; on the declaration they list methods and getters and choose how the object is shown.

The items of one attribute are all read before the first of them is judged. A declaration takes the
options of all its attributes together; of a field's attributes only the first one counts.
-/

namespace Stencil.Derive

/-! ## 1. Errors -/

/-- Why nothing can be derived from a declaration. -/
inductive DeriveError where
  | notStruct
  | notNamedFields
  | lifetimeParameter
  /-- An attribute stands alone where arguments in brackets are wanted. -/
  | noArguments
  /-- An attribute has a value where arguments in brackets are wanted. -/
  | valueForArguments
  | unknownOption
  | unknownFieldOption
  | renameNotText
  | renameUnreachable (name : String)
  | duplicateField (name : String)
  | duplicateMethod (name : String)
  | malformed (e : SyntaxError)
  deriving DecidableEq, Repr

/-- The wording of an error. -/
def DeriveError.message : DeriveError → String
  | notStruct => "Introspect can only be derived for structs"
  | notNamedFields => "Introspect can only be derived for structs with named fields"
  | lifetimeParameter => "Introspect cannot be derived for types with lifetime parameters"
  | noArguments => "expected attribute arguments in parentheses: #[introspect(...)]"
  | valueForArguments => "expected parentheses: #[introspect(...)]"
  | unknownOption =>
    "unknown introspect attribute. Expected: methods(...), getters(...) or display"
  | unknownFieldOption =>
    "unknown introspect field attribute. Expected: skip or rename = \"...\""
  | renameNotText => "rename must be a string literal"
  | renameUnreachable name =>
    s!"introspect rename '{name}' is not a valid template identifier ([A-Za-z_][A-Za-z0-9_]*)"
  | duplicateField name => s!"duplicate introspect field name '{name}'"
  | duplicateMethod name => s!"duplicate introspect method name '{name}'"
  | malformed e => e.message

/-- A syntax error as an error of the whole. -/
def liftSyntax {α : Type} : Except SyntaxError α → Except DeriveError α
  | .ok a => .ok a
  | .error e => .error (.malformed e)

/-! ## 2. Attributes that count -/

/-- The attribute is one of those that steer what is derived. -/
def Meta.steers (m : Meta) : Bool := m.name.is "introspect"

/-- The items among an attribute's arguments. -/
def Meta.items : Meta → Except DeriveError (List Meta)
  | alone _ => .error .noArguments
  | valued _ _ => .error .valueForArguments
  | list _ _ arguments => liftSyntax (terminated Meta.read arguments)

/-! ## 3. Fields -/

/-- The options of a field. -/
structure FieldOptions where
  /-- The field is left out. -/
  skip : Bool
  /-- The name it is exposed by, if it is not its own. -/
  rename : Option String
  deriving DecidableEq, Repr

namespace FieldOptions

/-- The options of a field without attributes. -/
def empty : FieldOptions := ⟨false, none⟩

/-- The options with one item more; of several names the last one counts. -/
def add (o : FieldOptions) : Meta → Except DeriveError FieldOptions
  | .alone name => if name.is "skip" then .ok { o with skip := true } else .error .unknownFieldOption
  | .valued name value =>
    if name.is "rename" then match value with
      | .string s => .ok { o with rename := some s }
      | .expression => .error .renameNotText
    else .error .unknownFieldOption
  | .list .. => .error .unknownFieldOption

/-- The options with further items, judged from the left. -/
def addAll (o : FieldOptions) : List Meta → Except DeriveError FieldOptions
  | [] => .ok o
  | item :: items => match o.add item with
    | .ok o => addAll o items
    | .error e => .error e

/-- The options of a field with the given attributes: those of the first attribute that counts. -/
def ofAttributes (attributes : List Meta) : Except DeriveError FieldOptions :=
  match attributes.find? (·.steers) with
  | none => .ok empty
  | some m => match m.items with
    | .ok items => empty.addAll items
    | .error e => .error e

end FieldOptions

/-! ## 4. Declarations -/

/-- The options of a declaration. -/
structure Options where
  /-- Methods that may be called by their own names. -/
  methods : List Word
  /-- Methods that may be called by the names of getters. -/
  getters : List Word
  /-- The object is shown as its type shows it. -/
  display : Bool
  deriving DecidableEq, Repr

namespace Options

/-- The options of a declaration without attributes. -/
def empty : Options := ⟨[], [], false⟩

/-- The options with one item more. -/
def add (o : Options) : Meta → Except DeriveError Options
  | .alone name => if name.is "display" then .ok { o with display := true } else .error .unknownOption
  | .valued .. => .error .unknownOption
  | .list name _ arguments =>
    if name.is "methods" then match terminated readIdentifier arguments with
      | .ok ws => .ok { o with methods := o.methods ++ ws }
      | .error e => .error (.malformed e)
    else if name.is "getters" then match terminated readIdentifier arguments with
      | .ok ws => .ok { o with getters := o.getters ++ ws }
      | .error e => .error (.malformed e)
    else .error .unknownOption

/-- The options with further items, judged from the left. -/
def addAll (o : Options) : List Meta → Except DeriveError Options
  | [] => .ok o
  | item :: items => match o.add item with
    | .ok o => addAll o items
    | .error e => .error e

/-- The options with further attributes; those that do not count are passed over. -/
def addAttributes (o : Options) : List Meta → Except DeriveError Options
  | [] => .ok o
  | m :: ms =>
    if m.steers then match m.items with
      | .ok items => match o.addAll items with
        | .ok o => addAttributes o ms
        | .error e => .error e
      | .error e => .error e
    else addAttributes o ms

/-- The options of a declaration with the given attributes. -/
def ofAttributes : List Meta → Except DeriveError Options := empty.addAttributes

end Options

end Stencil.Derive
