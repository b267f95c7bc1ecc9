import Stencil.Proofs.Trail
import Stencil.Engine.Host

/-!
# Hosts that use the engine

A host may use the engine that asks it: while it reads an accessor it may render templates and
resolve paths, with values whose hosts may do so again. It is civil (`Value.Civil`) when that is all
it does to the engine. Quiet hosts are civil, and so are tables whose entries render.

* `perform_leads`: with civil hosts every request takes an engine along a course, nested requests
  and all;
* `leads_turns`: so every turn of a run is a course, and the configuration stays the same.
-/

namespace Stencil

open Text

/-! ## 1. Civil hosts -/

/-- The engine after some requests, one after the other. -/
def Engine.performAll (calls : List Call) (e : Engine) : Engine :=
  calls.foldl (fun e c => (c.perform e).2) e

/-- A host that changes the engine by requests only: reading an accessor puts some requests to it,
which may hang on all that the engine holds and was asked before. The values that come with these
requests are civil, and so are those the host answers with. -/
inductive Value.Civil : Value → Prop where
  | null : Civil .null
  | bool (b : Bool) : Civil (.bool b)
  | number (n : Number) : Civil (.number n)
  | string (s : String) : Civil (.string s)
  | object (o : Object Value) (requests : Accessor → Engine → List Call)
      (reads : ∀ a e, (o.invoke a e).2 = e.performAll (requests a e))
      (brings : ∀ a e c, c ∈ requests a e → ∀ name v, c.values.find? name = some v → Civil v)
      (answers : ∀ a e v, (o.invoke a e).1 = .ok v → Civil v) : Civil (.object o)

/-- The values that come with a request are civil. -/
def Call.Civil (c : Call) : Prop := c.values.All Value.Civil

/-- A quiet host is civil: it puts no request. -/
theorem Value.Quiet.civil {v : Value} (h : v.Quiet) : v.Civil := by
  induction h with
  | null => exact .null
  | bool b => exact .bool b
  | number n => exact .number n
  | string s => exact .string s
  | object o read reads _ ih =>
    refine .object o (fun _ _ => []) (fun a e => ?_) (fun _ _ _ h => nomatch h) fun a e v hv => ?_
    · rw [reads]
      rfl
    · rw [reads] at hv
      exact ih e.calls a v hv

theorem Call.Quiet.civil {c : Call} (h : c.Quiet) : c.Civil := h.mono fun _ => Value.Quiet.civil

/-- The entry of a table answers by way of requests, with civil values. -/
def TableEntry.Civil (t : TableEntry) : Prop := ∃ requests : Engine → List Call,
  (∀ e, (t.read e).2 = e.performAll (requests e)) ∧ (∀ e, ∀ c ∈ requests e, c.Civil) ∧
    ∀ e v, (t.read e).1 = .ok v → v.Civil

theorem TableEntry.civil_holding {v : Value} (h : v.Civil) (kind : AccessKind) (name : String)
    (slot : Nat) : (holding kind name slot v).Civil :=
  ⟨fun _ => [], fun _ => rfl, fun _ => List.forall_mem_nil _, fun e w hw => by cases hw; exact h⟩

/-- An entry that renders is civil when its values are. -/
theorem TableEntry.civil_rendering {values : ValueMap} (h : values.All Value.Civil)
    (kind : AccessKind) (name : String) (slot : Nat) (template : String) :
    (rendering kind name slot template values).Civil := by
  have reads : ∀ e, ((rendering kind name slot template values).read e).2 =
      (e.render template values).2 ∧
        ∀ v, ((rendering kind name slot template values).read e).1 = .ok v → v.Civil := by
    intro e
    simp only [rendering]
    rcases e.render template values with ⟨_ | text, s⟩
    · exact ⟨rfl, nofun⟩
    · exact ⟨rfl, fun v hv => by cases hv; exact .string text⟩
  exact ⟨fun _ => [.render template values], fun e => (reads e).1,
    fun e => List.forall_mem_singleton.mpr h, fun e => (reads e).2⟩

/-- An object given by a table is civil when its entries are. -/
theorem Value.civil_ofTable {entries : List TableEntry} (h : ∀ t ∈ entries, t.Civil)
    (label : String) (identity : Identity) (typeName description : String) :
    (Value.object (.ofTable label identity typeName description entries)).Civil := by
  have reads : ∀ a, ∃ requests : Engine → List Call,
      (∀ e, (invokeIn typeName entries a e).2 = e.performAll (requests e)) ∧
        (∀ e, ∀ c ∈ requests e, c.Civil) ∧
        ∀ e v, (invokeIn typeName entries a e).1 = .ok v → v.Civil := by
    intro a
    unfold invokeIn
    cases ht : entries.find? fun t => t.slot = a.slot with
    | none => exact ⟨fun _ => [], fun _ => rfl, fun _ => List.forall_mem_nil _, nofun⟩
    | some t => exact h t (List.mem_of_find?_eq_some ht)
  choose requests reads brings answers using reads
  exact .object _ requests reads brings answers

namespace Engine

/-! ## 2. Requests take a course -/

namespace Realm

variable {steps : Object Value → Step → Prop} {Good : Value → Prop} (realm : Realm steps Good)
variable (all : Covers steps Good fun _ => True)
include realm all

theorem evaluate_any {values : ValueMap} (good : values.All Good) (items : Scan) (e : Engine) :
    Leads steps e (Engine.evaluate values items e).2 :=
  realm.evaluate good (fun s _ => all s trivial) e

theorem renderOutput {values : ValueMap} (good : values.All Good) (template : String)
    (e : Engine) : Leads steps e (e.renderOutput template values).2 := by
  have leads := realm.evaluate_any all good (scan template) (e.missed template values)
  have missed : Leads steps e (e.missed template values) := .of_aside (.report rfl)
  rcases renderOutput_cases template values e with
    ⟨text, -, h⟩ | ⟨-, ⟨error, s, hx, h⟩ | ⟨text, s, hx, h⟩⟩
  · rw [h]
    exact .of_aside (.report rfl)
  · rw [hx] at leads
    rw [h]
    exact missed.trans leads
  · rw [hx] at leads
    rw [h]
    exact (missed.trans leads).aside (.keepOutput _ text)

theorem renderCompiled {values : ValueMap} (good : values.All Good) (template : String)
    (e : Engine) : Leads steps e (e.renderCompiled template values).2 := by
  have leads := realm.evaluate_any all good (scan template) (e.report (.templateMiss template))
  have missed : Leads steps e (e.report (.templateMiss template)) := .of_aside (.report rfl)
  rcases renderCompiled_cases template values e with
    ⟨segments, -, h⟩ | ⟨-, ⟨error, s, hx, h⟩ | ⟨segments, text, s, -, hx, h⟩⟩
  · rw [h]
    exact (Leads.of_aside (.report rfl)).trans (realm.evaluate_any all good _ _)
  · rw [h, ← hx]
    exact missed.trans leads
  · rw [hx] at leads
    rw [h]
    exact (missed.trans leads).aside (.keepTemplate template segments)

/-- **Every request takes an engine along a course**, when any step may be taken from good values. -/
theorem perform {c : Call} (good : c.values.All Good) (e : Engine) :
    Leads steps e (c.perform e).2 := by
  rcases c.perform_cases with ⟨template, -, hp⟩ | ⟨-, hp⟩ | ⟨-, expression, hp⟩
  · rw [hp]
    show Leads steps e (e.render template c.values).2
    unfold Engine.render
    cases e.config.renderCache with
    | output => exact realm.renderOutput all good template e
    | compiled => exact realm.renderCompiled all good template e
    | disabled => exact realm.evaluate_any all good (scan template) e
  · rw [hp]
    exact .refl e
  · rw [hp]
    exact (realm.resolve good (fun s _ => all s trivial) e).1

theorem performAll {calls : List Call} (good : ∀ c ∈ calls, c.values.All Good) (e : Engine) :
    Leads steps e (e.performAll calls) := by
  induction calls generalizing e with
  | nil => exact .refl e
  | cons c calls ih =>
    obtain ⟨first, rest⟩ := List.forall_mem_cons.mp good
    exact (realm.perform all first e).trans (ih rest _)

end Realm

/-! ## 3. Civil hosts take a course -/

/-- Any step may be taken from the value, reading from it takes any engine along a course, and so it
is with the values it answers with. -/
inductive Guided (steps : Object Value → Step → Prop) : Value → Prop where
  | null : Guided steps .null
  | bool (b : Bool) : Guided steps (.bool b)
  | number (n : Number) : Guided steps (.number n)
  | string (s : String) : Guided steps (.string s)
  | object (o : Object Value) (offers : ∀ s, steps o s)
      (reads : ∀ a e, Leads steps e (o.invoke a e).2)
      (answers : ∀ a e v, (o.invoke a e).1 = .ok v → Guided steps v) : Guided steps (.object o)

/-- A receiver is the object itself or a text, which answers with scalars and texts. -/
theorem realm_guided {steps : Object Value → Step → Prop} : Realm steps (Guided steps) where
  reads := by
    intro v r good hr a e
    cases good with
    | null | bool | number => cases hr
    | string s =>
      cases hr
      exact .refl e
    | object o _ reads _ =>
      cases hr
      exact reads a e
  answers := by
    intro v r good hr a e w hw
    cases good with
    | null | bool | number => cases hr
    | string s =>
      cases hr
      exact of_readText .bool .number .string hw
    | object o _ _ answers =>
      cases hr
      exact answers a e w hw

/-- Any step may be taken from guided values, when it may be taken from texts. -/
theorem covers_guided {steps : Object Value → Step → Prop} (texts : ∀ s step, steps (.ofText s) step) :
    Covers steps (Guided steps) fun _ => True := by
  intro step _ v r good hr
  cases good with
  | null | bool | number => cases hr
  | string s =>
    cases hr
    exact texts s step
  | object o offers _ _ =>
    cases hr
    exact offers step

/-- Any step from any receiver. -/
def anyStep : Object Value → Step → Prop := fun _ _ => True

/-- **A civil host takes an engine along a course**, by induction over the requests it nests. -/
theorem guided_of_civil {v : Value} (h : v.Civil) : Guided anyStep v := by
  induction h with
  | null => exact .null
  | bool b => exact .bool b
  | number n => exact .number n
  | string s => exact .string s
  | object o requests reads _ _ brings answers =>
    refine .object o (fun _ => trivial) (fun a e => ?_) answers
    rw [reads]
    exact realm_guided.performAll (covers_guided fun _ _ => trivial) (brings a e) e

/-- **With civil hosts every request takes an engine along a course.** -/
theorem perform_leads {c : Call} (civil : c.Civil) (e : Engine) : Leads anyStep e (c.perform e).2 :=
  realm_guided.perform (covers_guided fun _ _ => trivial) (civil.mono fun _ => guided_of_civil) e

/-- With civil hosts requests lead along a course. -/
theorem performAll_leads {calls : List Call} (civil : ∀ c ∈ calls, c.Civil) (e : Engine) :
    Leads anyStep e (e.performAll calls) :=
  realm_guided.performAll (covers_guided fun _ _ => trivial)
    (fun c hc => (civil c hc).mono fun _ => guided_of_civil) e

/-- Taking steps from a civil value leads along a course, and to civil values. -/
theorem readSteps_civil {v : Value} (civil : v.Civil) {taken : List Step}
    (spelled : ∀ s ∈ taken, isIdentifier s.name.toList = true) (e : Engine) :
    Leads anyStep e (e.readSteps v taken).2 :=
  (realm_guided.readSteps (guided_of_civil civil) (fun _ _ => fun _ _ => trivial) spelled).1

end Engine

/-! ## 4. Runs -/

/-- **What holds of no past at the start, and goes on to hold with every turn, holds of all turns
when the run is over.** -/
theorem history_performAll (Inv : List Turn → Engine → Prop) {calls : List Call}
    (step : ∀ past t, t.call ∈ calls → t.Faithful → Inv past t.before → Inv (past ++ [t]) t.after)
    {e : Engine} (start : Inv [] e) : Inv (turns calls e) (e.performAll calls) := by
  -- the induction is on what is still to be asked, behind any past
  suffices general : ∀ rest, rest ⊆ calls → ∀ past s, Inv past s →
      Inv (past ++ turns rest s) (s.performAll rest) from
    general calls (List.Subset.refl calls) [] e start
  intro rest
  induction rest with
  | nil =>
    intro _ past s holds
    rw [turns, List.append_nil]
    exact holds
  | cons c rest ih =>
    intro sub past s holds
    have next := step past ⟨c, s, (c.perform s).1, (c.perform s).2⟩ (sub List.mem_cons_self) rfl holds
    rw [turns, List.append_cons]
    exact ih (List.subset_of_cons_subset sub) _ _ next

/-- With civil hosts an engine keeps its configuration, and every turn is a course. -/
theorem leads_turns {calls : List Call} (civil : ∀ c ∈ calls, c.Civil) {e : Engine} {t : Turn}
    (ht : t ∈ turns calls e) :
    t.before.config = e.config ∧ Engine.Leads Engine.anyStep t.before t.after := by
  obtain ⟨hc, faithful⟩ := mem_turns ht
  refine ⟨?_, ?_⟩
  · refine (invariant_turns (fun s => s.config = e.config) ?_ rfl ht).1
    intro c hc s hs
    exact (Engine.perform_leads (civil c hc) s).config.trans hs
  · have leads := Engine.perform_leads (civil _ hc) t.before
    rw [faithful] at leads
    exact leads

end Stencil
