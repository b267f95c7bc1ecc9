import Stencil.Proofs.AccessorCache
import Stencil.Proofs.CivilHosts

/-!
# Types that resolve by a rule

What an engine remembers of a type came from some object of the type. Where all objects of a type
resolve alike, it does not matter from which.

* `Leads.exists_receiver`: an accessor that is remembered was resolved by a receiver of the type, for
  what the token spells;
* `Typical`: a receiver from which the steps may be taken, and others of its type resolve as it does.
  It gets the accessors that it resolves, remembered or not (`Leads.lookup`, `Leads.findAccessor`);
* `Leads.readStep`: so a step from it reads the accessor that it has for the step, or fails without
  one, behind the look-ups of that step alone;
* `Follows`: the states of an engine in which all objects of one type went by a rule. With hosts that
  uphold it, requests lead to such states (`performAll_upholds`).
-/

namespace Stencil

open Text

namespace Engine

/-! ## 1. What is remembered -/

variable {steps : Object Value → Step → Prop} {c : Config} {e : Engine} {r : Object Value}
variable {token name : String} {kind : AccessKind}

/-- **What is remembered was resolved by a receiver of the type**, from which a step was taken, for
what the token spells. -/
theorem Leads.exists_receiver (h : Leads steps (ofConfig c) e) {key : AccessorKey} {a : Accessor}
    (found : e.accessors.find? key = some a) : ∃ (r : Object Value) (name : String)
      (kind : AccessKind) (s : Step), steps r s ∧ r.typeKey = key.receiver ∧
        Asked c key.token name kind ∧ r.resolve name kind = some a := by
  obtain ⟨deeds, trail, course⟩ := h
  obtain ⟨asked, accounts⟩ := trail.accounts
  rcases accounts.accessors key a found with old | ⟨d, mem, r, name, kind, rfl, type, given, -⟩
  · rw [show (ofConfig c).accessors = .empty from rfl, ShardedTable.find?_empty] at old
    cases old
  · obtain ⟨newer, older, rfl⟩ := List.append_of_mem mem
    obtain ⟨asked, s, taken⟩ := course.due.asked
    exact ⟨r, name, kind, s, taken, type, asked, given⟩

/-! ## 2. Typical receivers -/

/-- The steps may be taken from the receiver, and whatever other one of its type they may be taken
from resolves names as it does. -/
structure Typical (steps : Object Value → Step → Prop) (r : Object Value) : Prop where
  offers : ∀ s, steps r s
  alike : ∀ r' s, steps r' s → r'.typeKey = r.typeKey → r'.resolve = r.resolve

/-- **A typical receiver gets the accessor that it resolves**, remembered or not. -/
theorem Leads.lookup (h : Leads steps (ofConfig c) e) (typical : Typical steps r)
    (asked : Asked c token name kind) : (e.lookup r token name kind).1 = r.resolve name kind := by
  rcases e.lookup_cases r token name kind with ⟨a, hl, found⟩ | ⟨hl, missing, -⟩ | ⟨a, answer, given, -⟩
  · obtain ⟨r', name', kind', s', taken, type, asked', given⟩ := h.exists_receiver found
    -- the token spells one step only, so what is remembered is for the name and the kind asked for
    obtain ⟨s, spelled, hs, rfl, rfl⟩ := asked.exists_step
    obtain ⟨t, spelled', ht, rfl, rfl⟩ := asked'.exists_step
    obtain rfl := Step.eq_of_token_eq spelled' spelled (ht.trans hs.symm)
    rw [hl, ← typical.alike r' s' taken type, given]
  · rw [hl, missing]
  · rw [answer, given]

/-- The look-up of a field leads on. -/
theorem Leads.look_field (h : Leads steps (ofConfig c) e) (offers : steps r ⟨name, false⟩)
    (spelled : isIdentifier name.toList = true) (allowed : c.allowsName name = true) :
    Leads steps (ofConfig c) (e.lookup r name name .field).2 := by
  obtain ⟨deeds, trail, course⟩ := h
  exact ⟨_, trail.look r name name .field, course.next (.field offers spelled allowed)⟩

/-- The accessor that a receiver has for a name: the field of it, or else the getter. -/
def accessorOf (r : Object Value) (name : String) : Option Accessor :=
  (r.resolve name .field).or (r.resolve (getterOf name) .method)

/-- The accessor that a receiver has for a step: for a call the method. -/
def accessorAt (r : Object Value) (s : Step) : Option Accessor :=
  if s.call then r.resolve s.name .method else accessorOf r s.name

/-- What is wrong with a step that the receiver has no accessor for. -/
def missingAt (r : Object Value) (s : Step) : AccessError :=
  if s.call then .noMethod r.typeName s.name
  else .noFieldOrGetter r.typeName s.name (getterOf s.name)

/-- The step may be taken from the receiver: its name is allowed, and so are calls, unless it is for a
field that the receiver has. -/
structure Permits (c : Config) (r : Object Value) (s : Step) : Prop where
  name : c.allowsName s.name = true
  calls : c.allowMethodCalls = true ∨ s.call = false ∧ (r.resolve s.name .field).isSome = true

theorem permits_of_calls {s : Step} (name : c.allowsName s.name = true)
    (calls : c.allowMethodCalls = true) : Permits c r s := ⟨name, .inl calls⟩

/-- A method is found when the receiver resolves it. -/
theorem Leads.findMethod (h : Leads steps (ofConfig c) e) (typical : Typical steps r)
    (calls : c.allowMethodCalls = true) (asked : Asked c (callToken name) name .method)
    (missing : AccessError) : (e.findMethod r name missing).1 =
      match r.resolve name .method with
      | some a => .ok a
      | none => .error missing := by
  have same : e.config = c := h.config
  rw [← h.lookup typical asked, Engine.findMethod, same, Config.checkCall, if_pos calls]
  dsimp only
  rcases e.lookup r (callToken name) name .method with ⟨_ | a, s⟩ <;> rfl

/-- **A step finds the accessor that a typical receiver has for it.** -/
theorem Leads.findAccessor (h : Leads steps (ofConfig c) e) (typical : Typical steps r) {s : Step}
    (spelled : isIdentifier s.name.toList = true) (permits : Permits c r s) :
    (e.findAccessor r s).1 = match accessorAt r s with
      | some a => .ok a
      | none => .error (missingAt r s) := by
  obtain ⟨name, call⟩ := s
  obtain ⟨allowed, right⟩ := permits
  cases call with
  | true =>
    have calls : c.allowMethodCalls = true := right.resolve_right fun no => nomatch no.1
    exact h.findMethod typical calls (.call spelled allowed calls) _
  | false =>
    have field := h.lookup typical (.field spelled allowed)
    have later := h.look_field (typical.offers ⟨name, false⟩) spelled allowed
    show (e.findAccessor r ⟨name, false⟩).1 = match accessorOf r name with
      | some a => .ok a
      | none => .error (.noFieldOrGetter r.typeName name (getterOf name))
    unfold Engine.findAccessor accessorOf
    simp only [Bool.false_eq_true, if_false]
    rcases hl : e.lookup r name name .field with ⟨_ | a, s⟩
    · rw [hl] at field later
      have calls : c.allowMethodCalls = true := by
        refine right.resolve_right fun no => ?_
        have some := no.2
        rw [← field] at some
        cases some
      rw [← field]
      exact later.findMethod typical calls (.getter spelled allowed calls) _
    · rw [hl] at field
      rw [← field]
      rfl

/-- **A step from a typical receiver reads the accessor that it has for it**, and fails without one,
behind the look-ups of that step alone. -/
theorem Leads.readStep (h : Leads steps (ofConfig c) e) (typical : Typical steps r) {s : Step}
    (spelled : isIdentifier s.name.toList = true) (permits : Permits c r s) {v : Value}
    (hr : v.receiver? = some r) : ∃ t, Leads (fun r' s' => r' = r ∧ s' = s) e t ∧
      e.readStep v s = match accessorAt r s with
        | some a => r.invoke a t
        | none => (.error (missingAt r s), t) := by
  have same : e.config = c := h.config
  have allowed : e.config.allowsName s.name = true := by
    rw [same]
    exact permits.name
  have found := h.findAccessor typical spelled permits
  have finds : Finds e.config (fun r' s' => r' = r ∧ s' = s) e r (e.findAccessor r s) :=
    findAccessor_finds ⟨rfl, rfl⟩ spelled allowed
  obtain ⟨deeds, trail, course, last⟩ := finds
  rw [Engine.readStep, Config.checkName, if_pos allowed]
  dsimp only
  rw [hr]
  dsimp only
  rcases hx : e.findAccessor r s with ⟨answer, t⟩
  rw [hx] at found trail last
  dsimp only at found trail last
  subst found
  cases has : accessorAt r s with
  | none => exact ⟨t, ⟨deeds, trail, course⟩, rfl⟩
  | some a =>
    rw [has] at last
    obtain ⟨token, name, kind, past, rfl⟩ := last a rfl
    exact ⟨t.note (.invoke r.typeKey r.identity a), ⟨_, trail.read r a, course.next .read⟩, rfl⟩

end Engine

/-! ## 3. Hosts that uphold a rule -/

/-- The object resolves names by the rule, if it is of the type of the host program with this
label. -/
def Object.GoesBy (label : String) (rule : String → AccessKind → Option Accessor)
    (o : Object Value) : Prop := o.typeKey = .host label → o.resolve = rule

/-- A host of which something holds, and which changes the engine by requests only. The same holds of
the objects among the values that come with these requests, and among those it answers with. -/
inductive Value.Upholds (P : Object Value → Prop) : Value → Prop where
  | null : Upholds P .null
  | bool (b : Bool) : Upholds P (.bool b)
  | number (n : Number) : Upholds P (.number n)
  | string (s : String) : Upholds P (.string s)
  | object (o : Object Value) (holds : P o) (requests : Accessor → Engine → List Call)
      (reads : ∀ a e, (o.invoke a e).2 = e.performAll (requests a e))
      (brings : ∀ a e c, c ∈ requests a e → ∀ name v, c.values.find? name = some v → Upholds P v)
      (answers : ∀ a e v, (o.invoke a e).1 = .ok v → Upholds P v) : Upholds P (.object o)

/-- The values that come with a request uphold it. -/
def Call.Upholds (P : Object Value → Prop) (c : Call) : Prop := c.values.All (Value.Upholds P)

namespace Engine

variable {P : Object Value → Prop}

theorem guided_of_upholds (texts : ∀ s, P (.ofText s)) {v : Value} (h : v.Upholds P) :
    Guided (fun r _ => P r) v := by
  induction h with
  | null => exact .null
  | bool b => exact .bool b
  | number n => exact .number n
  | string s => exact .string s
  | object o holds requests reads _ _ brings answers =>
    refine .object o (fun _ => holds) (fun a e => ?_) answers
    rw [reads]
    exact realm_guided.performAll (covers_guided fun s _ => texts s) (brings a e) e

/-- **With hosts that uphold it requests lead along steps from receivers of which it holds.** -/
theorem performAll_upholds (texts : ∀ s, P (.ofText s)) {calls : List Call}
    (upholds : ∀ c ∈ calls, c.Upholds P) (e : Engine) :
    Leads (fun r _ => P r) e (e.performAll calls) :=
  realm_guided.performAll (covers_guided fun s _ => texts s)
    (fun c hc => (upholds c hc).mono fun _ => guided_of_upholds texts) e

/-- The states that an engine of a configuration comes to while all objects of the type with this
label go by the rule: behind any requests, and in the midst of one. -/
def Follows (label : String) (rule : String → AccessKind → Option Accessor) (c : Config)
    (e : Engine) : Prop := Leads (fun r _ => r.GoesBy label rule) (ofConfig c) e

/-- With hosts that uphold the rule, an engine follows it. -/
theorem follows_performAll {label : String} {rule : String → AccessKind → Option Accessor}
    {calls : List Call} (upholds : ∀ call ∈ calls, call.Upholds (Object.GoesBy label rule))
    (c : Config) : Follows label rule c ((ofConfig c).performAll calls) :=
  performAll_upholds (fun _ => nofun) upholds (ofConfig c)

/-- An object of the type is typical where all of them go by its rule. -/
theorem typical_of_goesBy {label : String} {r : Object Value} (type : r.typeKey = .host label) :
    Typical (fun r' _ => r'.GoesBy label r.resolve) r where
  offers := fun _ _ => rfl
  alike := fun _ _ goes same => goes (same.trans type)

end Engine

end Stencil
