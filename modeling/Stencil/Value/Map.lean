import Stencil.Document.Datum
import Stencil.Value.Document
import Stencil.Text.NameSet

/-!
# Value maps

A value map gives names values. A name that is present with the empty value is not the same as an
absent one. A map is a list of entries in which each name stands once; how it came about, in which
order and over which earlier values, shows nowhere but in that list, and `find?` is all that a
template sees of it.
-/

namespace Stencil

open Text

/-- Names with their values, each name once. -/
structure ValueMap where
  /-- The entries, in the order in which their names came in. -/
  entries : List (String × Value)
  /-- No name stands twice. -/
  distinct : (entries.map (·.1)).Nodup

/-- Why data gives no value map. -/
inductive ValuesError where
  /-- The data has no documented form. -/
  | datum (error : DatumError)
  /-- The document of the data has no names to its values. -/
  | notAnObject (kind : String)
  deriving DecidableEq, Repr

/-- The wording of a values error. -/
def ValuesError.message (e : ValuesError) : String :=
  "invalid values: " ++ match e with
    | datum error => error.message
    | notAnObject kind => s!"expected an object at the top level, got {kind}"

namespace ValueMap

/-! ## 1. Entries -/

/-- The value under a name in a list of entries. -/
def findIn? (name : String) : List (String × Value) → Option Value
  | [] => none
  | (key, v) :: entries => if key = name then some v else findIn? name entries

/-- The entries with a value under a name: in its place when it is there, at the end otherwise. -/
def insertIn (name : String) (value : Value) : List (String × Value) → List (String × Value)
  | [] => [(name, value)]
  | (key, v) :: entries =>
    if key = name then (name, value) :: entries else (key, v) :: insertIn name value entries

theorem mem_names_insertIn {name x : String} {value : Value} {entries : List (String × Value)} :
    x ∈ (insertIn name value entries).map (·.1) ↔ x = name ∨ x ∈ entries.map (·.1) := by
  induction entries with
  | nil => simp [insertIn]
  | cons entry entries ih =>
    obtain ⟨key, v⟩ := entry
    unfold insertIn
    split
    · rename_i h
      subst h
      simp
    · simp only [List.map_cons, List.mem_cons, ih]
      constructor
      · rintro (h | h | h) <;> simp [h]
      · rintro (h | h | h) <;> simp [h]

theorem nodup_names_insertIn {name : String} {value : Value} {entries : List (String × Value)}
    (h : (entries.map (·.1)).Nodup) : ((insertIn name value entries).map (·.1)).Nodup := by
  induction entries with
  | nil => simp [insertIn]
  | cons entry entries ih =>
    obtain ⟨key, v⟩ := entry
    simp only [List.map_cons, List.nodup_cons] at h
    unfold insertIn
    split
    · rename_i hk
      subst hk
      simpa using h
    · rename_i hk
      simp only [List.map_cons, List.nodup_cons]
      refine ⟨fun hm => ?_, ih h.2⟩
      rcases mem_names_insertIn.mp hm with hm | hm
      · exact hk hm
      · exact h.1 hm

/-- A value that was put in is found, and the others are as they were. -/
theorem findIn?_insertIn (name x : String) (value : Value) (entries : List (String × Value)) :
    findIn? x (insertIn name value entries) =
      if name = x then some value else findIn? x entries := by
  induction entries with
  | nil => simp [insertIn, findIn?]
  | cons entry entries ih =>
    obtain ⟨key, v⟩ := entry
    unfold insertIn
    split
    · rename_i hk
      subst hk
      simp only [findIn?]
      split <;> simp_all
    · rename_i hk
      simp only [findIn?, ih]
      split
      · rename_i hx
        subst hx
        simp [Ne.symm hk]
      · rfl

/-! ## 2. Maps -/

/-- The map without entries. -/
def empty : ValueMap := ⟨[], by simp⟩

instance : Inhabited ValueMap := ⟨empty⟩

/-- The value under a name. -/
def find? (m : ValueMap) (name : String) : Option Value := findIn? name m.entries

/-- The name is present, also with the empty value. -/
def contains (m : ValueMap) (name : String) : Bool := (m.find? name).isSome

/-- The map with a value under a name, in place of the one before. -/
def insert (m : ValueMap) (name : String) (value : Value) : ValueMap :=
  ⟨insertIn name value m.entries, nodup_names_insertIn m.distinct⟩

/-- The map with more entries, one after the other. -/
def extend (m : ValueMap) (entries : List (String × Value)) : ValueMap :=
  entries.foldl (fun m entry => m.insert entry.1 entry.2) m

/-- The map of a list of entries, the last one of each name. -/
def ofList (entries : List (String × Value)) : ValueMap := empty.extend entries

/-- The number of names. -/
def size (m : ValueMap) : Nat := m.entries.length

/-- The map has no names. -/
def isEmpty (m : ValueMap) : Bool := m.entries.isEmpty

/-- The set of the names. -/
def names (m : ValueMap) : NameSet := .ofList (m.entries.map (·.1))

@[simp] theorem find?_empty (name : String) : empty.find? name = none := rfl

@[simp] theorem find?_insert (m : ValueMap) (name x : String) (value : Value) :
    (m.insert name value).find? x = if name = x then some value else m.find? x :=
  findIn?_insertIn name x value m.entries

theorem isSome_findIn? {name : String} {entries : List (String × Value)} :
    (findIn? name entries).isSome = true ↔ name ∈ entries.map (·.1) := by
  induction entries with
  | nil => simp [findIn?]
  | cons entry entries ih =>
    obtain ⟨key, v⟩ := entry
    rw [findIn?, List.map_cons, List.mem_cons, ← ih]
    by_cases h : key = name
    · simp [h]
    · simp [h, Ne.symm h]

/-- The set of the names holds the names that are present. -/
theorem contains_names (m : ValueMap) (name : String) :
    m.names.contains name = m.contains name := by
  rw [Bool.eq_iff_iff, names, NameSet.contains_ofList]
  exact isSome_findIn?.symm

/-! ## 3. Data -/

/-- The map of the members of a document. -/
def ofMembers (identity : Identity) (members : List (String × Document)) : ValueMap :=
  ofList (members.map fun m => (m.1, Value.ofDocument (.member identity m.1) m.2))

/-- The map of data whose document is an object. -/
def ofDatum (identity : Identity) (d : Datum) : Except ValuesError ValueMap :=
  match d.toDocument with
  | .error e => .error (.datum e)
  | .ok (.object members) => .ok (ofMembers identity members)
  | .ok d => .error (.notAnObject d.kind)

end ValueMap

end Stencil
