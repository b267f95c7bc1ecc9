import Stencil.Proofs.TypeRules

/-!
# The library's own types

Texts and documents are types of the library. Hosts of a program may resolve names as they like, one
object otherwise than another of its type; but no object of a host is a text or a document, so what is
remembered for these two types is what they resolve themselves.

* `Object.Native`: an object that says it is a text or a document resolves names as these do. A host is
  native (`Value.Native`) when it is civil and so are all objects that it brings into play;
* `Attained`: the states of an engine that has seen native hosts only, in the midst of requests too
  (`performAll_native`);
* `typical_of_native`, `Attained.readStep`: in such a state texts and documents get the accessors that
  they resolve, remembered or not.
-/

namespace Stencil

open Text

/-! ## 1. Native hosts -/

/-- The object resolves names as its type does, if that is a type of the library. -/
structure Object.Native (o : Object Value) : Prop where
  text : o.typeKey = .text → o.resolve = resolveText
  document : o.typeKey = .document → o.resolve = Document.resolve

/-- The type is one of the library. -/
def TypeKey.isOwn : TypeKey → Bool
  | text | document => true
  | host _ => false

/-- Objects of one type of the library resolve alike. -/
theorem Object.Native.resolve_eq {o o' : Object Value} (h : o.Native) (h' : o'.Native)
    (own : o.typeKey.isOwn = true) (same : o'.typeKey = o.typeKey) : o'.resolve = o.resolve := by
  cases type : o.typeKey with
  | text => rw [h.text type, h'.text (same.trans type)]
  | document => rw [h.document type, h'.document (same.trans type)]
  | host label =>
    rw [type] at own
    cases own

/-- A host that is native and changes the engine by requests only. The values that come with these
requests are native, and so are those the host answers with. -/
inductive Value.Native : Value → Prop where
  | null : Native .null
  | bool (b : Bool) : Native (.bool b)
  | number (n : Number) : Native (.number n)
  | string (s : String) : Native (.string s)
  | object (o : Object Value) (native : o.Native) (requests : Accessor → Engine → List Call)
      (reads : ∀ a e, (o.invoke a e).2 = e.performAll (requests a e))
      (brings : ∀ a e c, c ∈ requests a e → ∀ name v, c.values.find? name = some v → Native v)
      (answers : ∀ a e v, (o.invoke a e).1 = .ok v → Native v) : Native (.object o)

/-- The values that come with a request are native. -/
def Call.Native (c : Call) : Prop := c.values.All Value.Native

/-- **What keeps the contract of accessors is native**, texts and documents among it. -/
theorem Value.Lawful.native {hosts : HostTypes} {v : Value} (h : v.Lawful hosts) : v.Native := by
  induction h with
  | null => exact .null
  | bool b => exact .bool b
  | number n => exact .number n
  | string s => exact .string s
  | object o read resolves reads _ ih =>
    refine .object o ⟨?_, ?_⟩ (fun _ _ => []) (fun a e => ?_) (fun _ _ _ h => nomatch h) ?_
    · intro type
      rw [resolves, type]
      rfl
    · intro type
      rw [resolves, type]
      rfl
    · rw [reads]
      rfl
    · intro a e v hv
      rw [reads] at hv
      exact ih a v hv

namespace Engine

/-! ## 2. States -/

/-- Any step from a native receiver. -/
def nativeStep : Object Value → Step → Prop := fun r _ => r.Native

/-- The states that an engine of a configuration comes to by steps from native receivers: behind any
requests with native hosts, and in the midst of one. -/
def Attained (c : Config) (e : Engine) : Prop := Leads nativeStep (ofConfig c) e

variable {c : Config} {e : Engine} {r : Object Value} {name : String}

/-- **Texts and documents are typical**: all native objects of these types resolve alike. -/
theorem typical_of_native (native : r.Native) (own : r.typeKey.isOwn = true) :
    Typical nativeStep r where
  offers := fun _ => native
  alike := fun _ _ native' same => native.resolve_eq native' own same

theorem Attained.checkName (h : Attained c e) (allowed : c.allowsName name = true) :
    e.config.checkName name = .ok () := by
  rw [h.config, Config.checkName]
  exact if_pos allowed

/-- **A step to a name reads the accessor that the receiver has for it**, and fails without one. -/
theorem Attained.readStep (h : Attained c e) (native : r.Native)
    (own : r.typeKey.isOwn = true) (spelled : isIdentifier name.toList = true)
    (allowed : c.allowsName name = true) (calls : c.allowMethodCalls = true) {v : Value}
    (hr : v.receiver? = some r) : ∃ s, (e.readStep v ⟨name, false⟩).1 = match accessorOf r name with
      | some a => (r.invoke a s).1
      | none => .error (.noFieldOrGetter r.typeName name (getterOf name)) := by
  obtain ⟨t, -, reads⟩ := Leads.readStep h (typical_of_native native own) (s := ⟨name, false⟩)
    spelled (permits_of_calls allowed calls) hr
  have same : accessorAt r ⟨name, false⟩ = accessorOf r name := rfl
  refine ⟨t, ?_⟩
  rw [reads, same]
  cases accessorOf r name <;> rfl

end Engine

end Stencil
