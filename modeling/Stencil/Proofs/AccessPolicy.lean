import Stencil.Proofs.CivilHosts

/-!
# The access policy

A configuration may forbid calls of methods, and may restrict the names that paths access. Neither
can be got around, whatever is remembered, however long the paths are, and even by hosts that put
requests of their own to the engine:

* `Course.fieldsOnly`: where calls are forbidden, only fields are looked up, and what is read is
  the answer of such a look-up right before;
* `Course.within`: where names are restricted, all look-ups are for the field or the method of an
  allowed name or, its field missing, for its getter;
* `resolve_denied`: a step to another name is refused before its receiver is asked anything;
* `access_policy_kept`: so it is in every turn of a run.
-/

namespace Stencil

open Text

/-! ## 1. Steps that are refused -/

namespace Engine

variable {e s : Engine} {values : ValueMap}

/-- The root of a path is read without asking whether its name is allowed. -/
theorem resolve_root {root : String} {v : Value} (spelled : isIdentifier root.toList = true)
    (found : values.find? root = some v) : e.resolve root values = (.ok v, e) := by
  simp only [resolve, Path.parse?_of_isIdentifier spelled, resolvePath, found]
  rfl

theorem readSteps_of_isNull {v : Value} (empty : v.isNull = true) (steps : List Step) (e : Engine) :
    e.readSteps v steps = (.ok v, e) := by
  cases steps with
  | nil => rfl
  | cons _ _ =>
    unfold readSteps
    rw [if_pos empty]

theorem readSteps_of_readStep {v next : Value} {step : Step} (filled : ¬ v.isNull = true)
    (h : e.readStep v step = (.ok next, s)) (steps : List Step) :
    e.readSteps v (step :: steps) = s.readSteps next steps := by
  rw [readSteps, if_neg filled, h]

/-- Steps are taken one part after the other. -/
theorem readSteps_append {v w : Value} {before : List Step} (h : e.readSteps v before = (.ok w, s))
    (after : List Step) : e.readSteps v (before ++ after) = s.readSteps w after := by
  induction before generalizing v e with
  | nil =>
    cases h
    rfl
  | cons step before ih =>
    rw [List.cons_append]
    by_cases empty : v.isNull = true
    · rw [readSteps_of_isNull empty] at h ⊢
      cases h
      rw [readSteps_of_isNull empty]
    · rcases hx : e.readStep v step with ⟨failure | next, t⟩
      · rw [readSteps, if_neg empty, hx] at h
        cases h
      · rw [readSteps_of_readStep empty hx] at h ⊢
        exact ih h

/-- **A step to a name that is not allowed is refused**, and its receiver is asked nothing. -/
theorem readSteps_denied {v : Value} {step : Step} (filled : v.isNull = false)
    (forbidden : e.config.allowsName step.name = false) (after : List Step) :
    e.readSteps v (step :: after) = (.error (step.token, .denied step.name), e) := by
  simp [readSteps, readStep, Config.checkName, filled, forbidden]

/-- A path ends with the refusal of its first step to a name that is not allowed. -/
theorem resolve_denied {expression : String} {path : Path} {root v : Value}
    {before after : List Step} {step : Step} (spelled : Path.parse? expression = some path)
    (steps : path.steps = before ++ step :: after) (found : values.find? path.root = some root)
    (reached : e.readSteps root before = (.ok v, s)) (filled : v.isNull = false)
    (forbidden : s.config.allowsName step.name = false) :
    e.resolve expression values =
      (.error (.access expression step.token (.denied step.name)), s) := by
  have refused : e.readSteps root path.steps = (.error (step.token, .denied step.name), s) := by
    rw [steps, readSteps_append reached, readSteps_denied filled forbidden]
  simp only [resolve, spelled, resolvePath, found, refused]

/-- A placeholder fails as its path does. -/
theorem fillIn_of_error {p : Placeholder} {error : RenderError}
    (h : e.resolve p.path values = (.error error, s)) : e.fillIn values p = (.error error, s) := by
  rw [fillIn, h]

/-! ## 2. What a course looks up -/

/-- No method was looked up, and every accessor that was read is the answer of the look-up of a
field right before. -/
structure FieldsOnly (deeds : List Deed) : Prop where
  looks : ∀ r token name kind answer, .look r token name kind answer ∈ deeds →
    kind = .field ∧ token = name
  reads : ∀ newer r a older, deeds = newer ++ .read r a :: older →
    ∃ name past, older = .look r name name .field (some a) :: past

/-- A look-up under the name `n`: for the field or the method of that name or, right behind the
look-up that missed the field, for its getter. -/
inductive Under (r : Object Value) (n : String) :
    List Deed → String → String → AccessKind → Prop where
  | field {past : List Deed} : Under r n past n n .field
  | call {past : List Deed} : Under r n past (callToken n) n .method
  | getter {past : List Deed} : Under r n (.look r n n .field none :: past)
      (callToken (getterOf n)) (getterOf n) .method

/-- Every look-up was under a name of the set, and every accessor that was read is the answer of
the look-up right before. -/
structure Within (names : NameSet) (deeds : List Deed) : Prop where
  looks : ∀ newer r token name kind answer older,
    deeds = newer ++ .look r token name kind answer :: older →
      ∃ n, names.contains n = true ∧ Under r n older token name kind
  reads : ∀ newer r a older, deeds = newer ++ .read r a :: older →
    ∃ token name kind past, older = .look r token name kind (some a) :: past

namespace Course

variable {c : Config} {steps : Object Value → Step → Prop} {deeds : List Deed}

/-- Where calls are forbidden, a look-up is for a field. -/
theorem field_of_look (course : Course c steps deeds) (calls : c.allowMethodCalls = false)
    {r : Object Value} {token name : String} {kind : AccessKind} {answer : Option Accessor}
    (mem : .look r token name kind answer ∈ deeds) :
    kind = .field ∧ token = name ∧ isIdentifier token.toList = true := by
  obtain ⟨newer, older, rfl⟩ := List.append_of_mem mem
  cases course.due with
  | field _ spelled _ => exact ⟨rfl, rfl, spelled⟩
  | call _ _ _ allowed | getter _ _ _ allowed =>
    rw [calls] at allowed
    cases allowed

/-- **Where calls are forbidden, only fields are looked up and read.** -/
theorem fieldsOnly (course : Course c steps deeds) (calls : c.allowMethodCalls = false) :
    FieldsOnly deeds where
  looks := by
    intro r token name kind answer mem
    obtain ⟨field, same, -⟩ := course.field_of_look calls mem
    exact ⟨field, same⟩
  reads := by
    rintro newer r a older rfl
    cases course.due with
    | @read past _ token name kind =>
      have mem : Deed.look r token name kind (some a) ∈
          newer ++ .read r a :: .look r token name kind (some a) :: past := by simp
      obtain ⟨rfl, rfl, -⟩ := course.field_of_look calls mem
      exact ⟨token, past, rfl⟩

/-- **Where names are restricted, only allowed ones are looked up**, and their getters. -/
theorem within (course : Course c steps deeds) {names : NameSet}
    (allowed : c.allowedAccessors = some names) : Within names deeds where
  looks := by
    have restricted : ∀ name, c.allowsName name = true → names.contains name = true := by
      intro name h
      rw [Config.allowsName, allowed] at h
      exact h
    rintro newer r token name kind answer older rfl
    cases course.due with
    | field _ _ right => exact ⟨_, restricted _ right, .field⟩
    | call _ _ right _ => exact ⟨_, restricted _ right, .call⟩
    | getter _ _ right _ => exact ⟨_, restricted _ right, .getter⟩
  reads := by
    rintro newer r a older rfl
    cases course.due with
    | read => exact ⟨_, _, _, _, rfl⟩

end Course

/-! ## 3. What is left of a course -/

/-- No host was asked to resolve a method, and no call's token is remembered. -/
structure NoMethods (e : Engine) : Prop where
  questions : ∀ type host name, .resolve type host .method name ∉ e.calls
  tokens : ∀ entry ∈ e.accessors.entries, ¬ ['(', ')'] <:+ entry.1.token.toList

theorem NoMethods.ofConfig (config : Config) : (ofConfig config).NoMethods where
  questions := fun _ _ _ => List.not_mem_nil
  tokens := by
    intro entry h
    rw [show (Engine.ofConfig config).accessors = .empty from rfl, ShardedTable.entries_empty] at h
    cases h

/-- An identifier does not end like a call. -/
theorem not_call_of_isIdentifier {cs : List Char} (h : isIdentifier cs = true) :
    ¬ ['(', ')'] <:+ cs := by
  intro ends
  have mem : '(' ∈ cs := ends.subset List.mem_cons_self
  exact absurd (isNameChar_of_mem h '(' mem) (by decide)

/-- Where calls are forbidden, a course asks for no method and remembers none. -/
theorem NoMethods.of_leads {steps : Object Value → Step → Prop} (h : e.NoMethods)
    (leads : Leads steps e s) (calls : e.config.allowMethodCalls = false) : s.NoMethods := by
  obtain ⟨deeds, trail, course⟩ := leads
  constructor
  · obtain ⟨asked, accounts⟩ := trail.accounts
    intro type host name mem
    rw [accounts.calls] at mem
    rcases List.mem_append.mp mem with mem | mem
    · obtain ⟨d, hd, asks⟩ := accounts.questions _ mem
      cases d with
      | look r token name' kind answer =>
        cases asks
        have field := (course.field_of_look calls hd).1
        cases field
      | read r a => cases asks
    · exact h.questions type host name mem
  · intro entry mem
    rcases trail.mem_entries mem with mem | ⟨r, name, kind, look⟩
    · exact h.tokens entry mem
    · exact not_call_of_isIdentifier (course.field_of_look calls look).2.2

end Engine

/-! ## 4. Runs -/

/-- **The access policy cannot be got around.** Over any run of requests, with any hosts that work
on the engine by requests alone, nested ones included:

* where calls are forbidden, every turn looks up fields only and reads nothing but the answer of
  such a look-up, no host is ever asked to resolve a method, and no call's token is remembered;
* where names are restricted, every look-up of every turn, answered from memory or by its receiver,
  is under an allowed name, or for the getter of one behind its missing field, and what is read is
  the answer of the look-up right before;
* a step to a name that is not allowed, on a value that is not empty, ends its path, resolved or in
  a placeholder, with a refusal, and the engine is as it was when the value was reached;
* the root of a path is not restricted. -/
theorem access_policy_kept (config : Config) (calls : List Call) (civil : ∀ c ∈ calls, c.Civil) :
    (∀ t ∈ turns calls (.ofConfig config),
      (∃ deeds, Engine.Trail t.before deeds t.after ∧
        (config.allowMethodCalls = false → Engine.FieldsOnly deeds) ∧
        ∀ names, config.allowedAccessors = some names → Engine.Within names deeds) ∧
      (config.allowMethodCalls = false →
        (∀ type host name, .resolve type host .method name ∉ t.after.calls) ∧
        ∀ entry ∈ t.after.accessors.entries, ¬ ['(', ')'] <:+ entry.1.token.toList)) ∧
    (∀ names, config.allowedAccessors = some names →
      ∀ (e s : Engine) (values : ValueMap) expression path root before step after v,
        e.config = config → values.All Value.Civil → Path.parse? expression = some path →
        path.steps = before ++ step :: after → values.find? path.root = some root →
        e.readSteps root before = (.ok v, s) → v.isNull = false →
        names.contains step.name = false →
        e.resolve expression values =
            (.error (.access expression step.token (.denied step.name)), s) ∧
          ∀ format offset, e.fillIn values ⟨expression, format, offset⟩ =
            (.error (.access expression step.token (.denied step.name)), s)) ∧
    ∀ (e : Engine) (values : ValueMap) root v, isIdentifier root.toList = true →
      values.find? root = some v → e.resolve root values = (.ok v, e) := by
  refine ⟨fun t ht => ⟨?_, fun forbidden => ?_⟩, ?_, fun e values root v => Engine.resolve_root⟩
  · obtain ⟨same, deeds, trail, course⟩ := leads_turns civil ht
    rw [same] at course
    exact ⟨deeds, trail, course.fieldsOnly, fun names => course.within⟩
  · have kept := invariant_turns (fun e => e.config = config ∧ e.NoMethods) ?_
      ⟨rfl, .ofConfig config⟩ ht
    · exact ⟨kept.2.2.questions, kept.2.2.tokens⟩
    · rintro c hc e ⟨rfl, none⟩
      have leads := Engine.perform_leads (civil c hc) e
      exact ⟨leads.config, none.of_leads leads forbidden⟩
  · rintro names restricted e s values expression path root before step after v rfl civil spelled
      steps found reached filled missing
    have leads := Engine.readSteps_civil (civil _ _ found)
      (fun s (hs : s ∈ before) => Path.isIdentifier_of_parse? spelled (by rw [steps]; simp [hs])) e
    rw [reached] at leads
    have forbidden : s.config.allowsName step.name = false := by
      rw [leads.config, Config.allowsName, restricted]
      exact missing
    have refused := Engine.resolve_denied spelled steps found reached filled forbidden
    exact ⟨refused, fun format offset => Engine.fillIn_of_error refused⟩

/-- A card shows its owner, and its getter renders the owner once more. -/
def cardTable : List TableEntry :=
  [.holding .field "owner" 0 (.string "Ada"),
    .rendering .field "line" 1 "{name.len()} {name}" (ValueMap.empty.insert "name" (.string "Ada")),
    .holding .method "getSecret" 2 (.string "1234")]

def card : Value := .object (.ofTable "Card" (.numbered 0) "Card" "card" cardTable)

theorem civil_card : card.Civil := by
  have name : (ValueMap.empty.insert "name" (.string "Ada")).All Value.Civil :=
    ValueMap.all_empty.insert (.string "Ada") "name"
  refine Value.civil_ofTable ?_ ..
  simp only [cardTable, List.forall_mem_cons]
  exact ⟨TableEntry.civil_holding (.string "Ada") .., TableEntry.civil_rendering name ..,
    TableEntry.civil_holding (.string "1234") .., nofun⟩

def cardValues : ValueMap := ValueMap.empty.insert "c" card

/-- Fields only, and of these two names. -/
def cardConfig : Config := (Config.default.withMethodCalls false).withAccessors ["owner", "line"]

/-- A field, a field that renders, a getter under a name that is not allowed, and a call. -/
def cardRun : List Call :=
  [.render "{c.owner}" cardValues, .render "{c.owner}: {c.line}" cardValues,
    .resolve "c.secret" cardValues, .resolve "c.owner.len()" cardValues]

theorem civil_cardRun : ∀ c ∈ cardRun, c.Civil := by
  have civil : cardValues.All Value.Civil := ValueMap.all_empty.insert civil_card "c"
  intro c hc
  simp only [cardRun, List.mem_cons, List.not_mem_nil, or_false] at hc
  rcases hc with rfl | rfl | rfl | rfl <;> exact civil

theorem access_policy_kept_cardRun :
    (∀ c ∈ cardRun, c.Civil) ∧
    (∀ t ∈ turns cardRun (.ofConfig cardConfig), ∃ deeds, Engine.Trail t.before deeds t.after ∧
      Engine.FieldsOnly deeds ∧ Engine.Within (.ofList ["owner", "line"]) deeds) ∧
    (Engine.ofConfig cardConfig).resolve "c.secret" cardValues =
      (.error (.access "c.secret" "secret" (.denied "secret")), .ofConfig cardConfig) := by
  obtain ⟨turn, refused, -⟩ := access_policy_kept cardConfig cardRun civil_cardRun
  refine ⟨civil_cardRun, fun t ht => ?_, ?_⟩
  · obtain ⟨deeds, trail, fields, within⟩ := (turn t ht).1
    exact ⟨deeds, trail, fields rfl, within _ rfl⟩
  · exact (refused _ rfl (.ofConfig cardConfig) _ cardValues "c.secret"
      ⟨"c", [⟨"secret", false⟩]⟩ card [] ⟨"secret", false⟩ [] card rfl
      (ValueMap.all_empty.insert civil_card "c") (by decide) rfl rfl rfl rfl (by decide)).1

end Stencil
