import Stencil.Proofs.Run

/-!
# The values that a template reads

A path starts from the value under its root, and no other value of the map is looked at. So a
template reads from a map what the map holds under the roots of its placeholders, and nothing else:

* `resolve_sameRoot`, `evaluate_sameRoots`: two maps that hold the same there give the same answer
  and lead an engine to the same state.
-/

namespace Stencil

/-- The identifier is the root of the path of a placeholder among these items. -/
def Scan.Root (items : Scan) (root : String) : Prop :=
  ∃ (p : Placeholder) (path : Path), .ok (.placeholder p) ∈ items ∧
    Path.parse? p.path = some path ∧ path.root = root

/-- The root of one placeholder is the root of its path. -/
theorem Scan.root_of_eq {items : Scan} {root : String} {p : Placeholder} {path : Path}
    (reads : items = [.ok (.placeholder p)]) (parses : Path.parse? p.path = some path)
    (h : items.Root root) : root = path.root := by
  obtain ⟨p', path', mem, parses', rfl⟩ := h
  rw [reads, List.mem_singleton] at mem
  cases mem
  rw [parses] at parses'
  cases parses'
  rfl

/-- Two maps hold the same value, or none, under every root among these items. -/
def Scan.SameRoots (items : Scan) (values values' : ValueMap) : Prop :=
  ∀ root, items.Root root → values'.find? root = values.find? root

namespace Engine

variable {values values' : ValueMap}

theorem resolve_sameRoot {expression : String} (same : ∀ path, Path.parse? expression = some path →
    values'.find? path.root = values.find? path.root) (e : Engine) :
    e.resolve expression values' = e.resolve expression values := by
  unfold resolve
  cases hp : Path.parse? expression with
  | none => rfl
  | some path => simp only [resolvePath, same path hp]

theorem fillIn_sameRoot {p : Placeholder} (same : ∀ path, Path.parse? p.path = some path →
    values'.find? path.root = values.find? path.root) (e : Engine) :
    e.fillIn values' p = e.fillIn values p := by
  rw [fillIn, fillIn, resolve_sameRoot same]

/-- **Evaluation reads no values but those under the roots of the placeholders.** -/
theorem evaluate_sameRoots {items : Scan} (same : items.SameRoots values values') (e : Engine) :
    evaluate values' items e = evaluate values items e := by
  induction items generalizing e with
  | nil => rfl
  | cons item items ih =>
    have rest : Scan.SameRoots items values values' := by
      rintro root ⟨p, path, mem, parsed, rfl⟩
      exact same _ ⟨p, path, List.mem_cons_of_mem _ mem, parsed, rfl⟩
    cases item with
    | error error => rfl
    | ok segment =>
      have first : e.evaluateSegment values' segment = e.evaluateSegment values segment := by
        cases segment with
        | literal text => rfl
        | placeholder p =>
          exact fillIn_sameRoot (fun path parsed => same _ ⟨p, path, List.mem_cons_self, parsed, rfl⟩) e
      rw [evaluate, evaluate, first]
      simp only [ih rest]

end Engine

end Stencil
