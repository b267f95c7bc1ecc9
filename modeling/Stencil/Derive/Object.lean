import Stencil.Derive.Table
import Stencil.Value.Table

/-!
# Objects of derived tables

A host whose type has a derived table answers by it: names resolve to its rows, and an accessor is
read from the member of the row that has its slot.
-/

namespace Stencil.Derive

/-- How the members of one object are read. -/
abbrev MemberReader := Member → Engine → Except AccessError Value × Engine

namespace Table

/-- The entries of an object, for its way of reading members. -/
def entries (t : Table) (read : MemberReader) : List TableEntry :=
  t.slots.map fun (r, slot) => ⟨r.kind, r.name, slot, read r.member⟩

/-- The object of a derived table; `shown` is how its type shows it. -/
def object (t : Table) (label : String) (identity : Identity) (shown : String)
    (read : MemberReader) : Object Value :=
  .ofTable label identity t.typeName (if t.display then shown else shortTypeName t.typeName)
    (t.entries read)

/-- The object resolves what the table resolves. -/
theorem object_resolve (t : Table) (label : String) (identity : Identity) (shown : String)
    (read : MemberReader) : (t.object label identity shown read).resolve = t.resolve := by
  funext name kind
  simp only [object, Object.ofTable, resolveIn, resolve, entries, List.find?_map, Option.map_map]
  rfl

/-- The object reads what the table reads, and knows no other slot. -/
theorem object_invoke (t : Table) (label : String) (identity : Identity) (shown : String)
    (read : MemberReader) (a : Accessor) (e : Engine) :
    (t.object label identity shown read).invoke a e =
      match t.member? a.slot with
      | some m => read m e
      | none => (.error (.unknownSlot t.typeName a.slot), e) := by
  simp only [object, Object.ofTable, invokeIn, member?, entries, List.find?_map]
  have h : ((fun x : TableEntry => decide (x.slot = a.slot)) ∘
      fun x : Row × Nat => (⟨x.1.kind, x.1.name, x.2, read x.1.member⟩ : TableEntry)) =
      fun x => decide (x.2 = a.slot) := rfl
  rw [h]
  cases t.slots.find? fun x => decide (x.2 = a.slot) <;> rfl

end Table

end Stencil.Derive
