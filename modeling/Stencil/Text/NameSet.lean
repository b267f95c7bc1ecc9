/-!
# Sets of names

A set of names is kept as the list of its names in order, each once; so two sets are equal when
they have the same names, however they were put together (`NameSet.ext_contains`).
-/

namespace Stencil.Text

/-- A set of names. -/
structure NameSet where
  /-- The names in order. -/
  names : List String
  /-- Each name stands once, behind the smaller ones. -/
  sorted : names.Pairwise (· < ·)
  deriving DecidableEq, Repr

namespace NameSet

/-- Adds a name to names in order, unless it is among them. -/
def insertName (name : String) : List String → List String
  | [] => [name]
  | n :: ns =>
    if name < n then name :: n :: ns
    else if name = n then n :: ns
    else n :: insertName name ns

theorem mem_insertName {name x : String} {ns : List String} :
    x ∈ insertName name ns ↔ x = name ∨ x ∈ ns := by
  induction ns with
  | nil => simp [insertName]
  | cons n ns ih =>
    unfold insertName
    split
    · simp
    · split
      · rename_i h; subst h; simp
      · simp only [List.mem_cons, ih]
        constructor
        · rintro (h | h | h) <;> simp [h]
        · rintro (h | h | h) <;> simp [h]

theorem sorted_insertName {name : String} {ns : List String} (h : ns.Pairwise (· < ·)) :
    (insertName name ns).Pairwise (· < ·) := by
  induction ns with
  | nil => exact List.pairwise_singleton _ _
  | cons n ns ih =>
    have ⟨first, tail⟩ := List.pairwise_cons.mp h
    unfold insertName
    by_cases lt : name < n
    · rw [if_pos lt]
      refine List.pairwise_cons.mpr ⟨fun x hx => ?_, h⟩
      rcases List.mem_cons.mp hx with rfl | hx
      · exact lt
      · exact String.lt_trans lt (first x hx)
    · rw [if_neg lt]
      by_cases eq : name = n
      · rw [if_pos eq]
        exact h
      · rw [if_neg eq]
        refine List.pairwise_cons.mpr ⟨fun x hx => ?_, ih tail⟩
        rcases mem_insertName.mp hx with rfl | hx
        · exact String.not_le.mp fun le => eq (String.le_antisymm le (String.not_lt.mp lt))
        · exact first x hx

/-- The set without names. -/
def empty : NameSet := ⟨[], .nil⟩

/-- The set with one more name. -/
def insert (s : NameSet) (name : String) : NameSet :=
  ⟨insertName name s.names, sorted_insertName s.sorted⟩

/-- The set of the given names. -/
def ofList (names : List String) : NameSet := names.foldl insert empty

/-- The name is in the set. -/
def contains (s : NameSet) (name : String) : Bool := s.names.contains name

theorem contains_iff {s : NameSet} {name : String} : s.contains name = true ↔ name ∈ s.names :=
  List.contains_iff_mem

theorem contains_insert {s : NameSet} {name x : String} :
    (s.insert name).contains x = true ↔ x = name ∨ s.contains x = true := by
  rw [contains_iff, contains_iff]
  exact mem_insertName

/-- A set holds the names it was made from. -/
theorem contains_ofList {names : List String} {x : String} :
    (ofList names).contains x = true ↔ x ∈ names := by
  have step : ∀ (l : List String) (s : NameSet),
      (l.foldl insert s).contains x = true ↔ s.contains x = true ∨ x ∈ l := by
    intro l
    induction l with
    | nil => simp
    | cons n l ih => intro s; simp [ih, contains_insert, or_comm, or_assoc, or_left_comm]
  rw [ofList, step]
  simp [contains, empty]

/-- **Sets with the same names are equal.** -/
theorem ext_contains {s t : NameSet} (h : ∀ name, s.contains name = t.contains name) : s = t := by
  have nodup : ∀ u : NameSet, u.names.Nodup := fun u => u.sorted.imp String.ne_of_lt
  have same : s.names.Perm t.names := by
    refine (List.perm_ext_iff_of_nodup (nodup s) (nodup t)).mpr fun name => ?_
    rw [← contains_iff, ← contains_iff, h]
  have names : s.names = t.names :=
    same.eq_of_pairwise (fun a b _ _ lt gt => (String.lt_asymm lt gt).elim) s.sorted t.sorted
  cases s
  cases t
  cases names
  rfl

end NameSet

end Stencil.Text
