import Stencil.Proofs.Run
import Stencil.Value.Document
import Stencil.Value.Table
import Mathlib.Tactic.Choose

/-!
# What hosts promise

Two promises, the second with the first in it:

* a host is quiet (`Value.Quiet`) when it leaves the engine that asks as it is and reads nothing
  from it; its answers may change with the questions that were put to hosts before;
* it keeps the contract of accessors (`Value.Lawful`) when its answers never change and it resolves
  names as its type does, so that an accessor of one host means the same on every other host of its
  type.

Both are asked of the values a host answers with as well. Texts and documents keep the contract,
and so do objects given by tables when their entries answer from themselves.
-/

namespace Stencil

/-! ## 1. Maps of good values -/

/-- All values of a map meet `P`. -/
def ValueMap.All (P : Value → Prop) (m : ValueMap) : Prop := ∀ name v, m.find? name = some v → P v

theorem ValueMap.all_empty {P : Value → Prop} : ValueMap.empty.All P := nofun

theorem ValueMap.All.insert {P : Value → Prop} {m : ValueMap} (h : m.All P) {v : Value} (hv : P v)
    (name : String) : (m.insert name v).All P := by
  intro x w hw
  rw [ValueMap.find?_insert] at hw
  split at hw
  · cases hw
    exact hv
  · exact h x w hw

theorem ValueMap.All.mono {P Q : Value → Prop} {m : ValueMap} (h : m.All P) (hpq : ∀ v, P v → Q v) :
    m.All Q := fun name v hv => hpq v (h name v hv)

/-! ## 2. The contract -/

/-- What the types of a host program resolve, by their labels. -/
abbrev HostTypes := String → String → AccessKind → Option Accessor

/-- What any type resolves: texts and documents are the library's own. -/
def HostTypes.resolve (hosts : HostTypes) : TypeKey → String → AccessKind → Option Accessor
  | .text => resolveText
  | .document => Document.resolve
  | .host label => hosts label

/-- A value keeps the contract: it resolves as its type does, and each accessor has one answer; so
do the values it answers with. -/
inductive Value.Lawful (hosts : HostTypes) : Value → Prop where
  | null : Lawful hosts .null
  | bool (b : Bool) : Lawful hosts (.bool b)
  | number (n : Number) : Lawful hosts (.number n)
  | string (s : String) : Lawful hosts (.string s)
  | object (o : Object Value) (read : Accessor → Except AccessError Value)
      (resolves : o.resolve = hosts.resolve o.typeKey) (reads : o.invoke = quietly read)
      (answers : ∀ a v, read a = .ok v → Lawful hosts v) : Lawful hosts (.object o)

/-- The values that come with a request are quiet. -/
def Call.Quiet (c : Call) : Prop := c.values.All Value.Quiet

/-- The values that come with a request keep the contract. -/
def Call.Lawful (hosts : HostTypes) (c : Call) : Prop := c.values.All (Value.Lawful hosts)

variable {hosts : HostTypes}

theorem Value.Lawful.quiet {v : Value} (h : v.Lawful hosts) : v.Quiet := by
  induction h with
  | null => exact .null
  | bool b => exact .bool b
  | number n => exact .number n
  | string s => exact .string s
  | object o read _ reads _ ih =>
    exact .object o (fun _ => read) (fun a e => by rw [reads]; rfl) fun _ => ih

theorem Call.Lawful.quiet {c : Call} (h : c.Lawful hosts) : c.Quiet := h.mono fun _ => Value.Lawful.quiet

/-! ## 3. Receivers -/

/-- A text answers with truth values, numbers and texts. -/
theorem of_readText {Good : Value → Prop} (bool : ∀ b, Good (.bool b))
    (number : ∀ n, Good (.number n)) (string : ∀ s, Good (.string s)) {s : String} {a : Accessor}
    {v : Value} (h : readText s a = .ok v) : Good v := by
  unfold readText at h
  split at h <;> cases h
  · exact number _
  · exact bool _
  · exact string _
  · exact string _
  · exact string _

/-- Where a step reads from a quiet value, the engine stays as it is and the answer is quiet. -/
theorem Value.Quiet.receiver {v : Value} (h : v.Quiet) {r : Object Value}
    (hr : v.receiver? = some r) :
    ∃ read : List HostCall → Accessor → Except AccessError Value,
      (∀ a e, r.invoke a e = (read e.calls a, e)) ∧
        ∀ asked a w, read asked a = .ok w → w.Quiet := by
  cases h with
  | null | bool | number => cases hr
  | string s =>
    cases hr
    exact ⟨fun _ => readText s, fun a e => rfl,
      fun _ a w h => of_readText .bool .number .string h⟩
  | object o read reads answers =>
    cases hr
    exact ⟨read, reads, answers⟩

/-- Where a step reads from a value that keeps the contract, names resolve as the type says. -/
theorem Value.Lawful.receiver {v : Value} (h : v.Lawful hosts) {r : Object Value}
    (hr : v.receiver? = some r) :
    r.resolve = hosts.resolve r.typeKey ∧
      ∃ read, r.invoke = quietly read ∧ ∀ a w, read a = .ok w → w.Lawful hosts := by
  cases h with
  | null | bool | number => cases hr
  | string s =>
    cases hr
    exact ⟨rfl, readText s, rfl, fun a w h => of_readText .bool .number .string h⟩
  | object o read resolves reads answers =>
    cases hr
    exact ⟨resolves, read, reads, answers⟩

/-! ## 4. Documents -/

theorem Document.lawful_of_read {d : Document} {field : String → Option Value} {a : Accessor}
    {v : Value} (fields : ∀ name w, field name = some w → w.Lawful hosts)
    (h : d.read field a = .ok v) : v.Lawful hosts := by
  unfold Document.read at h
  split at h
  · split at h
    · rename_i w hw
      cases h
      exact fields _ _ hw
    · cases h
  · split at h <;> cases h
    exact .number _
  · split at h <;> cases h
    exact .bool _
  · cases h

mutual

/-- **Documents keep the contract.** -/
theorem Value.lawful_ofDocument (identity : Identity) :
    ∀ d : Document, (Value.ofDocument identity d).Lawful hosts
  | .null => by rw [Value.ofDocument]; exact .null
  | .bool b => by rw [Value.ofDocument]; exact .bool b
  | .number n => by rw [Value.ofDocument]; exact .number n
  | .string s => by rw [Value.ofDocument]; exact .string s
  | .array items => by
    rw [Value.ofDocument]
    exact .object _ _ rfl rfl fun a v => Document.lawful_of_read nofun
  | .object members => by
    rw [Value.ofDocument]
    exact .object _ _ rfl rfl fun a v =>
      Document.lawful_of_read (Value.lawful_of_memberValue? identity members)

theorem Value.lawful_of_memberValue? (identity : Identity) :
    ∀ (members : List (String × Document)) (name : String) (v : Value),
      memberValue? identity members name = some v → v.Lawful hosts
  | [], name, v, h => by rw [memberValue?] at h; cases h
  | (key, d) :: members, name, v, h => by
    rw [memberValue?] at h
    split at h
    · cases h
      exact Value.lawful_ofDocument _ d
    · exact Value.lawful_of_memberValue? identity members name v h

end

/-! ## 5. Tables -/

/-- The kind, the name and the slot of an entry. -/
def TableEntry.heading (t : TableEntry) : AccessKind × String × Nat := (t.kind, t.name, t.slot)

/-- What a table resolves is a matter of its headings. -/
theorem resolveIn_congr {entries entries' : List TableEntry}
    (h : entries.map TableEntry.heading = entries'.map TableEntry.heading) :
    resolveIn entries = resolveIn entries' := by
  have headings : ∀ (entries : List TableEntry) name kind, resolveIn entries name kind =
      ((entries.map TableEntry.heading).find? fun x => x.1 = kind && x.2.1 = name).map
        fun x => ⟨x.1, x.2.2, x.2.1⟩ := by
    intro entries name kind
    rw [List.find?_map, Option.map_map]
    rfl
  funext name kind
  rw [headings, headings, h]

/-- The entry answers from itself, and with values that meet `P` only. -/
def TableEntry.Answers (P : Value → Prop) (t : TableEntry) : Prop :=
  ∃ answer, (t.read = fun e => (answer, e)) ∧ ∀ v, answer = .ok v → P v

theorem TableEntry.answers_holding {P : Value → Prop} {v : Value} (h : P v) (kind : AccessKind)
    (name : String) (slot : Nat) : (holding kind name slot v).Answers P :=
  ⟨.ok v, rfl, fun w hw => by cases hw; exact h⟩

theorem TableEntry.exists_read {P : Value → Prop} {entries : List TableEntry}
    (h : ∀ t ∈ entries, t.Answers P) (typeName : String) :
    ∃ read, invokeIn typeName entries = quietly read ∧ ∀ a v, read a = .ok v → P v := by
  have reads : ∀ a, ∃ answer, (∀ e, invokeIn typeName entries a e = (answer, e)) ∧
      ∀ v, answer = .ok v → P v := by
    intro a
    unfold invokeIn
    cases ht : entries.find? fun t => t.slot = a.slot with
    | none => exact ⟨_, fun e => rfl, nofun⟩
    | some t =>
      obtain ⟨answer, hread, hv⟩ := h t (List.mem_of_find?_eq_some ht)
      exact ⟨answer, fun e => congrFun hread e, hv⟩
  choose read hread hv using reads
  exact ⟨read, funext fun a => funext fun e => hread a e, hv⟩

theorem Value.quiet_ofTable {entries : List TableEntry} (h : ∀ t ∈ entries, t.Answers Value.Quiet)
    (label : String) (identity : Identity) (typeName description : String) :
    (Value.object (.ofTable label identity typeName description entries)).Quiet := by
  obtain ⟨read, reads, answers⟩ := TableEntry.exists_read h typeName
  exact .object _ (fun _ => read) (fun a e => congrFun (congrFun reads a) e) fun _ => answers

/-- An object given by a table keeps the contract when its type resolves as the table does. -/
theorem Value.lawful_ofTable {entries : List TableEntry}
    (h : ∀ t ∈ entries, t.Answers (Value.Lawful hosts)) {label : String}
    (resolves : hosts label = resolveIn entries) (identity : Identity)
    (typeName description : String) :
    (Value.object (.ofTable label identity typeName description entries)).Lawful hosts := by
  obtain ⟨read, reads, answers⟩ := TableEntry.exists_read h typeName
  exact .object _ read resolves.symm reads answers

end Stencil
