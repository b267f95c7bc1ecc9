import Stencil.Access
import Stencil.Derive.Declaration
import Stencil.Text.Case

/-!
# The derived table

What is derived from a declaration is a table of accessors: a row for each field that is not left
out, in order, then one for each method, then one for each getter. The number of a row is its slot.
A name resolves to the first row of its kind and name, and a slot is read by the first row that has
it.

No two rows of one kind have one name: `derive` refuses the declaration otherwise, and so it refuses
a name given to a field that no path can spell.
-/

namespace Stencil.Derive

/-! ## 1. Rows -/

/-- What a row reads. -/
inductive Member where
  | field (f : Field)
  | method (name : Word)
  deriving Repr

namespace Member

/-- The kind of access that reads a member. -/
def kind : Member → AccessKind
  | field _ => .field
  | method _ => .method

/-- The name of a member in its declaration. -/
def word : Member → Word
  | field f => f.name
  | method name => name

/-- The type of a field. -/
def type? : Member → Option (List Tree)
  | field f => some f.type
  | method _ => none

/-- The member as it is read from the object itself. -/
def text : Member → String
  | field f => "self." ++ f.name.text
  | method name => "self." ++ name.text ++ "()"

end Member

/-- A row: a member and the name it is exposed by. -/
structure Row where
  name : String
  member : Member
  deriving Repr

/-- The kind of access of a row. -/
def Row.kind (r : Row) : AccessKind := r.member.kind

/-- The name of a getter: `get` and the name of the method with its first letter as a capital. -/
def getterName (w : Word) : String :=
  match w.name.toList with
  | [] => "get"
  | c :: cs => "get" ++ String.ofList (Text.upperChar c ++ cs)

/-- The row of a field that is exposed by a name. -/
def Row.ofField (name : String) (f : Field) : Row := ⟨name, .field f⟩

/-- The row of a method. -/
def Row.ofMethod (w : Word) : Row := ⟨w.name, .method w⟩

/-- The row of a getter. -/
def Row.ofGetter (w : Word) : Row := ⟨getterName w, .method w⟩

/-! ## 2. Building the rows -/

/-- The name a field is exposed by: its own, or the one it is given, which a path must be able to
spell. -/
def exposedName (f : Field) (o : FieldOptions) : Except DeriveError String :=
  match o.rename with
  | none => .ok f.name.name
  | some name =>
    if Text.isIdentifier name.toList then .ok name else .error (.renameUnreachable name)

/-- The rows of fields, with the names in `seen` taken. -/
def fieldRows (seen : List String) : List Field → Except DeriveError (List Row)
  | [] => .ok []
  | f :: fs => match FieldOptions.ofAttributes f.attributes with
    | .error e => .error e
    | .ok o =>
      if o.skip then fieldRows seen fs
      else match exposedName f o with
        | .error e => .error e
        | .ok name =>
          if seen.contains name then .error (.duplicateField name)
          else match fieldRows (name :: seen) fs with
            | .ok rows => .ok (.ofField name f :: rows)
            | .error e => .error e

/-- Refuses rows of methods two of which have one name, with the names in `seen` taken. -/
def checkMethods (seen : List String) : List Row → Except DeriveError Unit
  | [] => .ok ()
  | r :: rs =>
    if seen.contains r.name then .error (.duplicateMethod r.name)
    else checkMethods (r.name :: seen) rs

/-- Rows are accepted exactly when their names are new and all different. -/
theorem checkMethods_eq_ok_iff {seen : List String} {rs : List Row} :
    checkMethods seen rs = .ok () ↔ (rs.map (·.name)).Nodup ∧ ∀ r ∈ rs, r.name ∉ seen := by
  induction rs generalizing seen with
  | nil => simp [checkMethods]
  | cons r rs ih =>
    by_cases h : r.name ∈ seen
    · simp [checkMethods, h]
    · rw [checkMethods, if_neg (by simpa using h), ih]
      simp only [List.map_cons, List.nodup_cons, List.mem_map, not_exists, not_and,
        List.mem_cons, not_or, forall_eq_or_imp]
      constructor
      · exact fun ⟨hn, hs⟩ => ⟨⟨fun x hx => (hs x hx).1, hn⟩, h, fun x hx => (hs x hx).2⟩
      · exact fun ⟨⟨hr, hn⟩, _, hs⟩ => ⟨hn, fun x hx => ⟨hr x hx, hs x hx⟩⟩

/-- The rows of methods and getters. -/
def Options.methodRows (o : Options) : List Row :=
  o.methods.map .ofMethod ++ o.getters.map .ofGetter

/-! ## 3. The table -/

/-- What is derived from a declaration. -/
structure Table where
  /-- The name of the type. -/
  typeName : String
  rows : List Row
  /-- The object is shown as its type shows it. -/
  display : Bool
  deriving Repr

/-- The parameter is a lifetime. -/
def Parameter.isLifetime : Parameter → Bool
  | .lifetime _ => true
  | .type .. | .const .. => false

/-- The declaration has a parameter that is a lifetime. -/
def Declaration.hasLifetime (d : Declaration) : Bool := d.parameters.any (·.isLifetime)

/-- The fields of a declaration, when it has named fields. -/
def Declaration.fields (d : Declaration) : Except DeriveError (List Field) :=
  match d.body with
  | .named fields => .ok fields
  | .tuple | .unit => .error .notNamedFields
  | .enumeration | .union => .error .notStruct

/-- Derives the table of a declaration. -/
def derive (d : Declaration) : Except DeriveError Table :=
  match d.fields with
  | .error e => .error e
  | .ok fields =>
    if d.hasLifetime then .error .lifetimeParameter
    else match Options.ofAttributes d.attributes with
      | .error e => .error e
      | .ok options => match fieldRows [] fields with
        | .error e => .error e
        | .ok rows => match checkMethods [] options.methodRows with
          | .error e => .error e
          | .ok () => .ok ⟨d.name.name, rows ++ options.methodRows, options.display⟩

namespace Table

/-- Slots are words of 32 bits. -/
def slotOf (i : Nat) : Nat := i % 0x100000000

/-- The rows with their slots. -/
def slots (t : Table) : List (Row × Nat) := t.rows.zipIdx.map fun (r, i) => (r, slotOf i)

/-- Resolves a name to an accessor: the first row of the kind and the name. -/
def resolve (t : Table) (name : String) (kind : AccessKind) : Option Accessor :=
  (t.slots.find? fun (r, _) => r.kind = kind && r.name = name).map fun (r, slot) =>
    ⟨r.kind, slot, r.name⟩

/-- The member that a slot reads. -/
def member? (t : Table) (slot : Nat) : Option Member :=
  (t.slots.find? fun (_, s) => s = slot).map fun (r, _) => r.member

/-- The types of the fields that have a row. -/
def fieldTypes (t : Table) : List (List Tree) := t.rows.filterMap (·.member.type?)

end Table

end Stencil.Derive
