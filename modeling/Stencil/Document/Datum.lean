import Stencil.Document.Basic

/-!
# Data to be documented

A datum is what a program hands over to become a document: it knows more kinds than documents do,
integers of any size, numbers of two widths, optional and tagged parts, records with keys of any
kind, and data that refuses to be written. `Datum.toDocument` reads a datum from left to right and
stops at the first part that has no documented form.
-/

namespace Stencil

open Numeric

/-- Data a program hands over. -/
inductive Datum where
  /-- Nothing, or an optional part that is absent. -/
  | null
  | bool (b : Bool)
  | integer (n : Int)
  | double (x : Double)
  | single (x : Single)
  /-- A text, a single character or the bare name of a choice. -/
  | text (s : String)
  /-- An optional part that is present. -/
  | present (d : Datum)
  /-- The name of a choice with its content. -/
  | tagged (name : String) (d : Datum)
  /-- A part that refuses with a message of its own. -/
  | refusing (message : String)
  | sequence (items : List Datum)
  /-- Keys with their parts, in the order they are handed over. -/
  | record (entries : List (Datum × Datum))

/-- Why a datum has no documented form. -/
inductive DatumError where
  /-- An integer beyond 64 bits. -/
  | outOfRange
  /-- A floating-point key that is not finite. -/
  | infiniteKey
  /-- A key that no text stands for. -/
  | keyWithoutText
  /-- A refusal in the datum's own words. -/
  | refused (message : String)
  deriving DecidableEq, Repr

/-- The wording of a datum error. -/
def DatumError.message : DatumError → String
  | outOfRange => "number out of range"
  | infiniteKey => "float key must be finite (got NaN or +/-inf)"
  | keyWithoutText => "key must be a string"
  | refused message => message

namespace Datum

/-- The text of a floating-point key. -/
def floatKey {f : Format} (x : Binary f) : Except DatumError String :=
  if x.isFinite then .ok (String.ofList (Number.documentLayout.text x)) else .error .infiniteKey

/-- The text of a key: texts, truth values and numbers have one. -/
def key : Datum → Except DatumError String
  | text s => .ok s
  | bool b => .ok (if b then "true" else "false")
  | integer n => .ok (String.ofList (intText n))
  | double x => floatKey x
  | single x => floatKey x
  | refusing message => .error (.refused message)
  | _ => .error .keyWithoutText

mutual

/-- The document of a datum. -/
def toDocument : Datum → Except DatumError Document
  | null => .ok .null
  | bool b => .ok (.bool b)
  | integer n => match Document.ofInt? n with
    | some d => .ok d
    | none => .error .outOfRange
  | double x => .ok (.ofDouble x)
  | single x => .ok (.ofDouble x.widen)
  | text s => .ok (.string s)
  | present d => toDocument d
  | tagged name d => match toDocument d with
    | .ok d => .ok (.object [(name, d)])
    | .error e => .error e
  | refusing message => .error (.refused message)
  | sequence items => match toDocuments items with
    | .ok items => .ok (.array items)
    | .error e => .error e
  | record entries => match toMembers entries [] with
    | .ok members => .ok (.object members)
    | .error e => .error e

/-- The documents of the items, up to the first that has none. -/
def toDocuments : List Datum → Except DatumError (List Document)
  | [] => .ok []
  | d :: items => match toDocument d with
    | .error e => .error e
    | .ok d => match toDocuments items with
      | .error e => .error e
      | .ok items => .ok (d :: items)

/-- The members of a record added to those before them; a key comes before its part, and a later
entry of the same key replaces an earlier one. -/
def toMembers : List (Datum × Datum) → List (String × Document) →
    Except DatumError (List (String × Document))
  | [], members => .ok members
  | (k, d) :: entries, members => match key k with
    | .error e => .error e
    | .ok name => match toDocument d with
      | .error e => .error e
      | .ok d => toMembers entries (Document.insertMember name d members)

end

end Datum

end Stencil
