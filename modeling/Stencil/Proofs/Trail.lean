import Stencil.Proofs.QuietHosts
import Stencil.Proofs.Tables

/-!
# What an engine does on its way

Whatever an engine is asked, it gets from one state to the next by two deeds: it looks an accessor
up, and it has a receiver read an accessor. Between them it only reports on templates and keeps
outputs and templates.

* `Trail e deeds s`: by these deeds, the newest first, the engine `e` came to the state `s`. What
  all deeds keep, a trail keeps: the configuration (`Trail.config`) and every remembered accessor
  (`Trail.find?_of_some`); an accessor or a question that is new has its deed on the trail
  (`Trail.mem_entries`, `Trail.accounts`);
* `Course c steps deeds`: every deed was due when it was done. Only steps of a path in `steps` are
  looked up, each with the right to it, a getter only behind the field that was missing, and an
  accessor is read right behind the look-up that found it;
* `Realm.resolve`, `Realm.evaluate`: resolving a path and evaluating a template take such a course,
  as long as the hosts do.
-/

namespace Stencil

open Text

/-- The event tells of a look-up. -/
def Event.ofLookup : Event → Bool
  | accessorHit .. | accessorResolved .. => true
  | _ => false

namespace Engine

/-! ## 1. Deeds -/

/-- What an engine does with a receiver. -/
inductive Deed where
  /-- It looked an accessor up, remembered or not, and had this answer. -/
  | look (receiver : Object Value) (token name : String) (kind : AccessKind)
    (answer : Option Accessor)
  /-- It had the receiver read an accessor. -/
  | read (receiver : Object Value) (accessor : Accessor)

/-- What an engine does besides: it reports on templates, or keeps an output or a template. -/
inductive Aside (e : Engine) : Engine → Prop where
  | report {event : Event} (other : event.ofLookup = false) : Aside e (e.report event)
  | keepOutput (key : RenderKey) (text : String) : Aside e (e.keepOutput key text)
  | keepTemplate (template : String) (segments : List Segment) :
      Aside e (e.keepTemplate template segments)

/-- By these deeds, the newest first, an engine came to a state. -/
inductive Trail (e : Engine) : List Deed → Engine → Prop where
  | start : Trail e [] e
  | aside {past : List Deed} {s s' : Engine} (trail : Trail e past s) (besides : Aside s s') :
      Trail e past s'
  | look {past : List Deed} {s : Engine} (trail : Trail e past s) (r : Object Value)
      (token name : String) (kind : AccessKind) :
      Trail e (.look r token name kind (s.lookup r token name kind).1 :: past)
        (s.lookup r token name kind).2
  | read {past : List Deed} {s : Engine} (trail : Trail e past s) (r : Object Value)
      (a : Accessor) : Trail e (.read r a :: past) (s.note (.invoke r.typeKey r.identity a))

/-- What is done besides leaves alone what deeds work on. -/
theorem Aside.same {e s : Engine} (h : Aside e s) :
    s.config = e.config ∧ s.accessors = e.accessors ∧ s.calls = e.calls := by
  cases h with
  | report => exact ⟨rfl, rfl, rfl⟩
  | keepOutput key text =>
    unfold Engine.keepOutput
    split <;> exact ⟨rfl, rfl, rfl⟩
  | keepTemplate template segments =>
    unfold Engine.keepTemplate
    split <;> exact ⟨rfl, rfl, rfl⟩

/-- **What a look-up does**: it finds a remembered accessor, or asks the receiver in vain, or asks
it and remembers the answer. -/
theorem lookup_cases (r : Object Value) (token name : String) (kind : AccessKind) (e : Engine) :
    (∃ a, e.lookup r token name kind = (some a, e.report (.accessorHit r.typeName token)) ∧
      e.accessors.find? ⟨r.typeKey, token⟩ = some a) ∨
    (e.lookup r token name kind = (none, e.note (.resolve r.typeKey r.identity kind name)) ∧
      r.resolve name kind = none ∧ e.accessors.find? ⟨r.typeKey, token⟩ = none) ∨
    ∃ a, (e.lookup r token name kind).1 = some a ∧ r.resolve name kind = some a ∧
      e.accessors.find? ⟨r.typeKey, token⟩ = none ∧
      (e.lookup r token name kind).2.calls = .resolve r.typeKey r.identity kind name :: e.calls ∧
      (e.lookup r token name kind).2.accessors =
        (e.accessors.insertIfAbsent ⟨r.typeKey, token⟩ a).2 := by
  unfold lookup
  dsimp only
  cases hf : e.accessors.find? ⟨r.typeKey, token⟩ with
  | some a => exact Or.inl ⟨a, rfl, rfl⟩
  | none =>
    dsimp only
    cases hr : r.resolve name kind with
    | none => exact Or.inr (Or.inl ⟨rfl, rfl, rfl⟩)
    | some a => exact Or.inr (Or.inr ⟨a, rfl, rfl, rfl, rfl, rfl⟩)

namespace Trail

variable {e s s' : Engine} {deeds next past : List Deed}

/-- Trails follow one another. -/
theorem trans (h : Trail e past s) (h' : Trail s next s') : Trail e (next ++ past) s' := by
  induction h' with
  | start => exact h
  | aside _ besides ih => exact ih.aside besides
  | look _ r token name kind ih => exact ih.look r token name kind
  | read _ r a ih => exact ih.read r a

theorem config (h : Trail e deeds s) : s.config = e.config := by
  induction h with
  | start => rfl
  | aside _ besides ih => exact besides.same.1.trans ih
  | look _ r token name kind ih => exact (lookup_config ..).trans ih
  | read _ r a ih => exact ih

/-- **A remembered accessor stays as it is.** -/
theorem find?_of_some (h : Trail e deeds s) {key : AccessorKey} {a : Accessor}
    (hf : e.accessors.find? key = some a) : s.accessors.find? key = some a := by
  induction h with
  | start => exact hf
  | aside _ besides ih =>
    rw [besides.same.2.1]
    exact ih
  | @look _ s _ r token name kind ih =>
    rcases lookup_cases r token name kind s with ⟨b, hl, -⟩ | ⟨hl, -⟩ | ⟨b, -, -, -, -, table⟩
    · rw [hl]
      exact ih
    · rw [hl]
      exact ih
    · rw [table, ShardedTable.find?_insertIfAbsent]
      split
      · rename_i hk
        rw [← hk, ih]
        rfl
      · exact ih
  | read _ r a ih => exact ih

/-- A remembered accessor was remembered before, or was looked up under its token. -/
theorem mem_entries (h : Trail e deeds s) {entry : AccessorKey × Accessor}
    (he : entry ∈ s.accessors.entries) : entry ∈ e.accessors.entries ∨
      ∃ r name kind, .look r entry.1.token name kind (some entry.2) ∈ deeds := by
  induction h with
  | start => exact Or.inl he
  | aside _ besides ih =>
    rw [besides.same.2.1] at he
    exact ih he
  | @look past s _ r token name kind ih =>
    have older : entry ∈ s.accessors.entries → entry ∈ e.accessors.entries ∨
        ∃ r' name' kind', .look r' entry.1.token name' kind' (some entry.2) ∈
          Deed.look r token name kind (s.lookup r token name kind).1 :: past := by
      intro he
      refine (ih he).imp_right ?_
      rintro ⟨r', name', kind', mem⟩
      exact ⟨r', name', kind', List.mem_cons_of_mem _ mem⟩
    rcases lookup_cases r token name kind s with ⟨b, hl, -⟩ | ⟨hl, -⟩ | ⟨b, hb, -, -, -, table⟩
    · rw [hl] at he
      exact older he
    · rw [hl] at he
      exact older he
    · rw [table] at he
      rcases ShardedTable.mem_entries_insertIfAbsent.mp he with he | ⟨-, rfl⟩
      · exact older he
      · rw [hb]
        exact Or.inr ⟨r, name, kind, List.mem_cons_self⟩
  | read _ r a ih =>
    refine (ih he).imp_right ?_
    rintro ⟨r', name, kind, mem⟩
    exact ⟨r', name, kind, List.mem_cons_of_mem _ mem⟩

end Trail

/-! ## 2. What is new on a trail -/

/-- The question is put to the receiver for this deed. -/
def Deed.Asks : Deed → HostCall → Prop
  | look r _ name kind _, question => question = .resolve r.typeKey r.identity kind name
  | read r a, question => question = .invoke r.typeKey r.identity a

/-- The accessor is the answer of a look-up of this deed, which its receiver resolved when it was
asked. -/
def Deed.Brings (d : Deed) (asked : List HostCall) (key : AccessorKey) (a : Accessor) : Prop :=
  ∃ r name kind, d = .look r key.token name kind (some a) ∧ r.typeKey = key.receiver ∧
    r.resolve name kind = some a ∧ .resolve r.typeKey r.identity kind name ∈ asked

/-- The deeds account for all questions and accessors that are new in a state. -/
structure Accounts (e : Engine) (deeds : List Deed) (asked : List HostCall) (s : Engine) :
    Prop where
  calls : s.calls = asked ++ e.calls
  questions : ∀ question ∈ asked, ∃ d ∈ deeds, d.Asks question
  accessors : ∀ key a, s.accessors.find? key = some a → e.accessors.find? key = some a ∨
    ∃ d ∈ deeds, d.Brings asked key a

/-- One more deed accounts for what is new by it. -/
theorem Accounts.next {e s s' : Engine} {deeds : List Deed} {asked : List HostCall}
    (h : Accounts e deeds asked s) {d : Deed} (new : List HostCall)
    (calls : s'.calls = new ++ s.calls)
    (questions : ∀ question ∈ new, d.Asks question)
    (accessors : ∀ key a, s'.accessors.find? key = some a →
      s.accessors.find? key = some a ∨ d.Brings new key a) :
    Accounts e (d :: deeds) (new ++ asked) s' where
  calls := by rw [calls, h.calls, List.append_assoc]
  questions := by
    intro question mem
    rcases List.mem_append.mp mem with mem | mem
    · exact ⟨d, List.mem_cons_self, questions question mem⟩
    · obtain ⟨d', hd, asks⟩ := h.questions question mem
      exact ⟨d', List.mem_cons_of_mem _ hd, asks⟩
  accessors := by
    intro key a ha
    rcases accessors key a ha with ha | ⟨r, name, kind, look, type, given, mem⟩
    · refine (h.accessors key a ha).imp_right ?_
      rintro ⟨d', hd, r, name, kind, look, type, given, mem⟩
      exact ⟨d', List.mem_cons_of_mem _ hd, r, name, kind, look, type, given,
        List.mem_append_right _ mem⟩
    · exact Or.inr ⟨d, List.mem_cons_self, r, name, kind, look, type, given,
        List.mem_append_left _ mem⟩

/-- **Everything new on a trail is accounted for by its deeds.** -/
theorem Trail.accounts {e s : Engine} {deeds : List Deed} (h : Trail e deeds s) :
    ∃ asked, Accounts e deeds asked s := by
  induction h with
  | start => exact ⟨[], rfl, nofun, fun key a ha => Or.inl ha⟩
  | aside _ besides ih =>
    obtain ⟨asked, calls, questions, accessors⟩ := ih
    obtain ⟨-, table, journal⟩ := besides.same
    exact ⟨asked, journal.trans calls, questions, by rw [table]; exact accessors⟩
  | @look _ s _ r token name kind ih =>
    obtain ⟨asked, ih⟩ := ih
    rcases lookup_cases r token name kind s with
      ⟨b, hl, -⟩ | ⟨hl, -⟩ | ⟨b, hb, given, absent, questioned, table⟩
    · rw [hl]
      exact ⟨_, ih.next [] rfl nofun fun key a ha => Or.inl ha⟩
    · rw [hl]
      exact ⟨_, ih.next [_] rfl (List.forall_mem_singleton.mpr rfl)
        fun key a ha => Or.inl ha⟩
    · refine ⟨_, ih.next [_] questioned (List.forall_mem_singleton.mpr rfl) ?_⟩
      intro key a ha
      rw [table, ShardedTable.find?_insertIfAbsent] at ha
      split at ha
      · rename_i hk
        subst hk
        rw [absent] at ha
        cases ha
        exact Or.inr ⟨r, name, kind, by rw [hb]; rfl, rfl, given, List.mem_singleton_self _⟩
      · exact Or.inl ha
  | @read _ s _ r a ih =>
    obtain ⟨asked, ih⟩ := ih
    exact ⟨_, ih.next [_] rfl (List.forall_mem_singleton.mpr rfl)
      fun key b hb => Or.inl hb⟩

/-! ## 3. Courses -/

/-- A deed that is due behind others, the newest first, when a configuration gives the rights and
the steps are those in `steps`: a step's field or method is looked up, the getter of a step's field
right behind the field that is missing, and an accessor is read right behind the look-up that found
it. -/
inductive Due (c : Config) (steps : Object Value → Step → Prop) : List Deed → Deed → Prop where
  | field {past : List Deed} {r : Object Value} {name : String} {answer : Option Accessor}
      (mem : steps r ⟨name, false⟩) (spelled : isIdentifier name.toList = true)
      (allowed : c.allowsName name = true) : Due c steps past (.look r name name .field answer)
  | call {past : List Deed} {r : Object Value} {name : String} {answer : Option Accessor}
      (mem : steps r ⟨name, true⟩) (spelled : isIdentifier name.toList = true)
      (allowed : c.allowsName name = true) (calls : c.allowMethodCalls = true) :
      Due c steps past (.look r (callToken name) name .method answer)
  | getter {past : List Deed} {r : Object Value} {name : String} {answer : Option Accessor}
      (mem : steps r ⟨name, false⟩) (spelled : isIdentifier name.toList = true)
      (allowed : c.allowsName name = true) (calls : c.allowMethodCalls = true) :
      Due c steps (.look r name name .field none :: past)
        (.look r (callToken (getterOf name)) (getterOf name) .method answer)
  | read {past : List Deed} {r : Object Value} {token name : String} {kind : AccessKind}
      {a : Accessor} : Due c steps (.look r token name kind (some a) :: past) (.read r a)

/-- Every deed was due behind the ones before it. -/
inductive Course (c : Config) (steps : Object Value → Step → Prop) : List Deed → Prop where
  | start : Course c steps []
  | next {past : List Deed} {d : Deed} (course : Course c steps past) (due : Due c steps past d) :
      Course c steps (d :: past)

section Course

variable {c : Config} {steps : Object Value → Step → Prop} {past older newer : List Deed} {d : Deed}

/-- What is due to be looked up is looked up for a step from the receiver, with the right to it. -/
theorem Due.asked {r : Object Value} {token name : String} {kind : AccessKind}
    {answer : Option Accessor} (h : Due c steps past (.look r token name kind answer)) :
    Asked c token name kind ∧ ∃ s, steps r s := by
  cases h with
  | field mem spelled allowed => exact ⟨.field spelled allowed, _, mem⟩
  | call mem spelled allowed calls => exact ⟨.call spelled allowed calls, _, mem⟩
  | getter mem spelled allowed calls => exact ⟨.getter spelled allowed calls, _, mem⟩

/-- What happened long before does not matter. -/
theorem Due.append (h : Due c steps past d) (older : List Deed) : Due c steps (past ++ older) d := by
  cases h with
  | field mem spelled allowed => exact .field mem spelled allowed
  | call mem spelled allowed calls => exact .call mem spelled allowed calls
  | getter mem spelled allowed calls => exact .getter mem spelled allowed calls
  | read => exact .read

theorem Course.append (h : Course c steps newer) (h' : Course c steps older) :
    Course c steps (newer ++ older) := by
  induction h with
  | start => exact h'
  | next _ due ih => exact ih.next (due.append older)

/-- Every deed of a course was due. -/
theorem Course.due (h : Course c steps (newer ++ d :: older)) : Due c steps older d := by
  induction newer with
  | nil =>
    cases h with
    | next _ due => exact due
  | cons first newer ih =>
    cases h with
    | next course _ => exact ih course

end Course

/-- The engine came to the state on a course. -/
def Leads (steps : Object Value → Step → Prop) (e s : Engine) : Prop :=
  ∃ deeds, Trail e deeds s ∧ Course e.config steps deeds

namespace Leads

variable {steps : Object Value → Step → Prop} {e s s' : Engine}

theorem refl (e : Engine) : Leads steps e e := ⟨[], .start, .start⟩

theorem trans (h : Leads steps e s) (h' : Leads steps s s') : Leads steps e s' := by
  obtain ⟨past, trail, course⟩ := h
  obtain ⟨next, trail', course'⟩ := h'
  rw [trail.config] at course'
  exact ⟨next ++ past, trail.trans trail', course'.append course⟩

theorem config (h : Leads steps e s) : s.config = e.config := by
  obtain ⟨_, trail, -⟩ := h
  exact trail.config

theorem aside (h : Leads steps e s) (besides : Aside s s') : Leads steps e s' := by
  obtain ⟨deeds, trail, course⟩ := h
  exact ⟨deeds, trail.aside besides, course⟩

theorem of_aside (besides : Aside e s) : Leads steps e s := (refl e).aside besides

end Leads

/-! ## 4. Steps -/

/-- A look-up behind others, with what it may find. -/
def Finds (c : Config) (steps : Object Value → Step → Prop) (e : Engine) (r : Object Value)
    (found : Except AccessError Accessor × Engine) : Prop :=
  ∃ deeds, Trail e deeds found.2 ∧ Course c steps deeds ∧
    ∀ a, found.1 = .ok a → ∃ token name kind past, deeds = .look r token name kind (some a) :: past

section Steps

variable {steps : Object Value → Step → Prop} {e s : Engine} {r : Object Value} {past : List Deed}

theorem findMethod_finds {name : String} {missing : AccessError} (trail : Trail e past s)
    (course : Course s.config steps past)
    (due : s.config.allowMethodCalls = true → ∀ answer,
      Due s.config steps past (.look r (callToken name) name .method answer)) :
    Finds s.config steps e r (s.findMethod r name missing) := by
  unfold findMethod
  cases hc : s.config.checkCall (callToken name) with
  | error denied => exact ⟨past, trail, course, nofun⟩
  | ok u =>
    have calls := Config.allowMethodCalls_of_checkCall hc
    have looked := trail.look r (callToken name) name .method
    dsimp only
    rcases hl : s.lookup r (callToken name) name .method with ⟨_ | a, s'⟩
    · rw [hl] at looked
      exact ⟨_, looked, course.next (due calls none), nofun⟩
    · rw [hl] at looked
      refine ⟨_, looked, course.next (due calls (some a)), fun b hb => ?_⟩
      cases hb
      exact ⟨_, _, _, _, rfl⟩

theorem findAccessor_finds {step : Step} (mem : steps r step)
    (spelled : isIdentifier step.name.toList = true)
    (allowed : e.config.allowsName step.name = true) :
    Finds e.config steps e r (e.findAccessor r step) := by
  obtain ⟨name, call⟩ := step
  unfold findAccessor
  cases call with
  | true => exact findMethod_finds .start .start fun calls _ => .call mem spelled allowed calls
  | false =>
    have looked := Trail.start.look (e := e) r name name .field
    have field : ∀ answer, Course e.config steps [.look r name name .field answer] :=
      fun _ => Course.start.next (.field mem spelled allowed)
    have config := lookup_config r name name .field e
    simp only [Bool.false_eq_true, if_false]
    rcases hl : e.lookup r name name .field with ⟨_ | a, s⟩
    · rw [hl] at looked config
      dsimp only at looked config ⊢
      -- the getter is asked for after the field, so its right is the one of the later engine
      rw [← config] at field allowed ⊢
      exact findMethod_finds looked (field none) fun calls _ => .getter mem spelled allowed calls
    · rw [hl] at looked
      refine ⟨_, looked, field (some a), fun b hb => ?_⟩
      cases hb
      exact ⟨_, _, _, _, rfl⟩

end Steps

/-- Values whose hosts take an engine along a course when they read, and answer with such values. -/
structure Realm (steps : Object Value → Step → Prop) (Good : Value → Prop) : Prop where
  reads : ∀ {v r}, Good v → v.receiver? = some r → ∀ a e, Leads steps e (r.invoke a e).2
  answers : ∀ {v r}, Good v → v.receiver? = some r → ∀ a e w, (r.invoke a e).1 = .ok w → Good w

/-- These steps are among `steps`, from whatever good value they are taken. -/
def Covers (steps : Object Value → Step → Prop) (Good : Value → Prop) (taken : Step → Prop) :
    Prop := ∀ s, taken s → ∀ {v r}, Good v → v.receiver? = some r → steps r s

/-- A course leads to the end of what is done, and what is found there is good. -/
def Arrives (steps : Object Value → Step → Prop) {ε : Type} (Good : Value → Prop) (e : Engine)
    (done : Except ε Value × Engine) : Prop :=
  Leads steps e done.2 ∧ ∀ w, done.1 = .ok w → Good w

namespace Realm

variable {steps : Object Value → Step → Prop} {Good : Value → Prop} (realm : Realm steps Good)
include realm

theorem readStep {v : Value} {s : Step} {e : Engine} (good : Good v)
    (mem : ∀ {r}, v.receiver? = some r → steps r s)
    (spelled : isIdentifier s.name.toList = true) : Arrives steps Good e (e.readStep v s) := by
  unfold Engine.readStep
  cases hc : e.config.checkName s.name with
  | error denied => exact ⟨.refl e, nofun⟩
  | ok u =>
    have allowed := Config.allowsName_of_checkName hc
    cases hr : v.receiver? with
    | none => exact ⟨.refl e, nofun⟩
    | some r =>
      obtain ⟨deeds, trail, course, found⟩ := findAccessor_finds (mem hr) spelled allowed
      dsimp only
      rcases hx : e.findAccessor r s with ⟨failure | a, t⟩
      · rw [hx] at trail
        exact ⟨⟨deeds, trail, course⟩, nofun⟩
      · rw [hx] at trail found
        obtain ⟨token, name, kind, past, rfl⟩ := found a rfl
        have reading : Leads steps e (t.note (.invoke r.typeKey r.identity a)) :=
          ⟨_, trail.read r a, course.next .read⟩
        exact ⟨reading.trans (realm.reads good hr a _), realm.answers good hr a _⟩

theorem readSteps {v : Value} {taken : List Step} {e : Engine} (good : Good v)
    (covers : Covers steps Good (· ∈ taken))
    (spelled : ∀ s ∈ taken, isIdentifier s.name.toList = true) :
    Arrives steps Good e (e.readSteps v taken) := by
  induction taken generalizing v e with
  | nil => exact ⟨.refl e, fun w hw => by cases hw; exact good⟩
  | cons s taken ih =>
    unfold Engine.readSteps
    split
    · exact ⟨.refl e, fun w hw => by cases hw; exact good⟩
    · obtain ⟨leads, answers⟩ := realm.readStep (e := e) good
        (fun hr => covers s List.mem_cons_self good hr) (spelled s List.mem_cons_self)
      rcases hx : e.readStep v s with ⟨failure | w, t⟩
      · rw [hx] at leads
        exact ⟨leads, fun w hw => by cases hw⟩
      · rw [hx] at leads answers
        obtain ⟨leads', answers'⟩ := ih (e := t) (answers w rfl)
          (fun s hs => covers s (List.mem_cons_of_mem _ hs))
          (fun s hs => spelled s (List.mem_cons_of_mem _ hs))
        exact ⟨leads.trans leads', answers'⟩

end Realm

/-! ## 5. Paths and templates -/

end Engine

/-- The step is one of the path that an expression spells. -/
def Path.Takes (expression : String) (s : Step) : Prop :=
  ∃ path, Path.parse? expression = some path ∧ s ∈ path.steps

/-- The step is one of the path of a placeholder among these items. -/
def Scan.Takes (items : Scan) (s : Step) : Prop :=
  ∃ p : Placeholder, .ok (.placeholder p) ∈ items ∧ Path.Takes p.path s

namespace Engine

namespace Realm

variable {steps : Object Value → Step → Prop} {Good : Value → Prop} (realm : Realm steps Good)
variable {values : ValueMap} (good : values.All Good)
include realm good

/-- **Resolving a path takes a course along its steps.** -/
theorem resolve {expression : String} (covers : Covers steps Good (Path.Takes expression))
    (e : Engine) : Arrives steps Good e (e.resolve expression values) := by
  unfold Engine.resolve
  cases hp : Path.parse? expression with
  | none => exact ⟨.refl e, nofun⟩
  | some path =>
    dsimp only [Engine.resolvePath]
    cases hroot : values.find? path.root with
    | none => exact ⟨.refl e, nofun⟩
    | some root =>
      have arrives : Arrives steps Good e (e.readSteps root path.steps) :=
        realm.readSteps (good _ _ hroot) (fun s hs => covers s ⟨path, hp, hs⟩)
          (fun s hs => Path.isIdentifier_of_parse? hp hs)
      obtain ⟨leads, answers⟩ := arrives
      dsimp only
      rcases hx : e.readSteps root path.steps with ⟨⟨segment, source⟩ | w, t⟩
      · rw [hx] at leads
        exact ⟨leads, nofun⟩
      · rw [hx] at leads answers
        exact ⟨leads, fun w' hw => by cases hw; exact answers w rfl⟩

theorem fillIn {p : Placeholder} (covers : Covers steps Good (Path.Takes p.path)) (e : Engine) :
    Leads steps e (e.fillIn values p).2 := by
  have leads := (realm.resolve good covers e).1
  unfold Engine.fillIn
  rcases hx : e.resolve p.path values with ⟨error | v, s⟩
  · rw [hx] at leads
    exact leads
  · rw [hx] at leads
    cases p.format <;> exact leads

/-- **Evaluating a template takes a course along the steps of its placeholders.** -/
theorem evaluate {items : Scan} (covers : Covers steps Good items.Takes) (e : Engine) :
    Leads steps e (Engine.evaluate values items e).2 := by
  induction items generalizing e with
  | nil => exact .refl e
  | cons item items ih =>
    have rest : Covers steps Good (Scan.Takes items) := by
      rintro s ⟨p, hp, takes⟩
      exact covers s ⟨p, List.mem_cons_of_mem _ hp, takes⟩
    cases item with
    | error error => exact .refl e
    | ok segment =>
      have leads : Leads steps e (e.evaluateSegment values segment).2 := by
        cases segment with
        | literal text => exact .refl e
        | placeholder p =>
          exact realm.fillIn good (fun s takes => covers s ⟨p, List.mem_cons_self, takes⟩) e
      unfold Engine.evaluate
      rcases hx : e.evaluateSegment values segment with ⟨error | text, s⟩
      · rw [hx] at leads
        exact leads
      · rw [hx] at leads
        have leads' := ih rest s
        dsimp only
        rcases hy : Engine.evaluate values items s with ⟨error | text', s'⟩
        · rw [hy] at leads'
          exact leads.trans leads'
        · rw [hy] at leads'
          exact leads.trans leads'

end Realm

end Engine

end Stencil
