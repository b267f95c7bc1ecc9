import Stencil.Proofs.AccessorCache
import Stencil.Proofs.CivilHosts
import Mathlib.Data.List.Induction

/-!
# The look-ups of a run

An engine asks a receiver to resolve a name only where it remembers no accessor for the type and the
token, and it remembers what it gets.

* `Lookup`: a look-up with the engine as it is then. It is answered from memory, or the receiver is
  asked (`Lookup.remembered_or_asked`);
* `History e looks s`: with these look-ups, in this order, an engine came from one state to another.
  From the start an accessor is remembered just when a look-up got it (`History.find?_eq_some_iff`);
* `Leads.exists_history`: with civil hosts every request has a history, nested requests and all;
* `resolved_once`: so of one type a name is resolved once at most, and asked for again until then.
-/

namespace Stencil

open Text

/-! ## 1. One look-up -/

/-- A look-up: the engine that makes it, as it is then, and what it is for. -/
structure Lookup where
  engine : Engine
  receiver : Object Value
  token : String
  name : String
  kind : AccessKind

/-- The question is to resolve a name. -/
def HostCall.isResolve : HostCall → Bool
  | resolve .. => true
  | invoke .. => false

namespace Lookup

/-- The accessor that is found, if there is one. -/
def answer (l : Lookup) : Option Accessor :=
  (l.engine.lookup l.receiver l.token l.name l.kind).1

/-- The engine behind the look-up. -/
def after (l : Lookup) : Engine := (l.engine.lookup l.receiver l.token l.name l.kind).2

/-- What an accessor for it is filed under: the type and the token. -/
def key (l : Lookup) : AccessorKey := ⟨l.receiver.typeKey, l.token⟩

/-- What is looked up: the type, the name and the kind. -/
def subject (l : Lookup) : TypeKey × String × AccessKind := (l.receiver.typeKey, l.name, l.kind)

/-- What the receiver is asked, if it is. -/
def question (l : Lookup) : HostCall :=
  .resolve l.receiver.typeKey l.receiver.identity l.kind l.name

/-- The receiver is asked. -/
def Asks (l : Lookup) : Prop := l.after.calls = l.question :: l.engine.calls

instance (l : Lookup) : Decidable l.Asks := inferInstanceAs (Decidable (_ = _))

/-- The receiver is asked and resolves the name to the accessor. -/
def Gets (l : Lookup) (a : Accessor) : Prop := l.Asks ∧ l.receiver.resolve l.name l.kind = some a

/-- The look-up is one that a step of a path leads to. -/
def Due (l : Lookup) : Prop := Engine.Asked l.engine.config l.token l.name l.kind

/-- **A look-up is answered from memory, or the receiver is asked**: what it resolves is the answer
and is remembered, and when it does not, nothing is. -/
theorem remembered_or_asked (l : Lookup) :
    (∃ a, l.engine.accessors.find? l.key = some a ∧ l.answer = some a ∧
      l.after.calls = l.engine.calls ∧ l.after.accessors = l.engine.accessors) ∨
    l.engine.accessors.find? l.key = none ∧ l.Asks ∧
      ((l.receiver.resolve l.name l.kind = none ∧ l.answer = none ∧
          l.after.accessors = l.engine.accessors) ∨
        ∃ a, l.receiver.resolve l.name l.kind = some a ∧ l.answer = some a ∧
          l.after.accessors = (l.engine.accessors.insertIfAbsent l.key a).2) := by
  obtain ⟨e, r, token, name, kind⟩ := l
  simp only [Asks, answer, after]
  rcases e.lookup_cases r token name kind with
    ⟨a, hl, found⟩ | ⟨hl, missing, absent⟩ | ⟨a, answer, given, absent, asked, table⟩
  · rw [hl]
    exact Or.inl ⟨a, found, rfl, rfl, rfl⟩
  · rw [hl]
    exact Or.inr ⟨absent, rfl, Or.inl ⟨missing, rfl, rfl⟩⟩
  · exact Or.inr ⟨absent, asked, Or.inr ⟨a, given, answer, table⟩⟩

variable {l l' : Lookup} {a : Accessor}

/-- **The receiver is asked just where nothing is remembered.** -/
theorem asks_iff : l.Asks ↔ l.engine.accessors.find? l.key = none := by
  rcases l.remembered_or_asked with ⟨a, found, -, calls, -⟩ | ⟨absent, asks, -⟩
  · rw [Asks, calls, found]
    exact iff_of_false (fun h => List.cons_ne_self _ _ h.symm) (Option.some_ne_none a)
  · exact iff_of_true asks absent

/-- **A look-up remembers its answer under its own key**, and touches no other one. -/
theorem find?_after (l : Lookup) (key : AccessorKey) : l.after.accessors.find? key =
    if key = l.key then l.answer else l.engine.accessors.find? key := by
  rcases l.remembered_or_asked with
    ⟨a, found, answer, -, table⟩ | ⟨absent, -, ⟨-, answer, table⟩ | ⟨a, -, answer, table⟩⟩
  · rw [table, answer]
    split
    · rw [‹key = _›, found]
    · rfl
  · rw [table, answer]
    split
    · rw [‹key = _›, absent]
    · rfl
  · rw [table, answer, ShardedTable.find?_insertIfAbsent, absent]
    rfl

/-- **Look-ups share a key just when they are for one name and one kind of one type.** -/
theorem subject_eq_iff (due : l.Due) (due' : l'.Due) : l'.subject = l.subject ↔ l'.key = l.key := by
  obtain ⟨s, spelled, token, name, kind⟩ := due.exists_step
  obtain ⟨s', spelled', token', name', kind'⟩ := due'.exists_step
  simp only [subject, key, Prod.mk.injEq, AccessorKey.mk.injEq]
  refine and_congr_right fun _ => ⟨?_, fun same => ?_⟩
  · rintro ⟨names, kinds⟩
    have steps : s'.call = s.call := by
      rw [← kind, ← kind'] at kinds
      cases h : s.call <;> cases h' : s'.call <;> simp [Step.kind, h, h'] at kinds ⊢
    rw [← token, ← token', Step.token, Step.token, steps, name, name', names]
  · obtain rfl := Step.eq_of_token_eq spelled' spelled (token'.trans (same.trans token.symm))
    exact ⟨name'.symm.trans name, kind'.symm.trans kind⟩

end Lookup

namespace Engine

/-! ## 2. Histories -/

/-- With these look-ups, in this order, an engine came to a state. Between them it only read
accessors, reported on templates and kept outputs and templates. -/
inductive History (e : Engine) : List Lookup → Engine → Prop where
  | start : History e [] e
  | aside {past : List Lookup} {s s' : Engine} (history : History e past s)
      (besides : Aside s s') : History e past s'
  | read {past : List Lookup} {s : Engine} (history : History e past s) (r : Object Value)
      (a : Accessor) : History e past (s.note (.invoke r.typeKey r.identity a))
  | look {past : List Lookup} {l : Lookup} (history : History e past l.engine) (due : l.Due) :
      History e (past ++ [l]) l.after

/-- **A course has a history.** -/
theorem Leads.exists_history {steps : Object Value → Step → Prop} {e s : Engine}
    (h : Leads steps e s) : ∃ looks, History e looks s := by
  obtain ⟨deeds, trail, course⟩ := h
  induction trail with
  | start => exact ⟨[], .start⟩
  | aside _ besides ih =>
    obtain ⟨looks, history⟩ := ih course
    exact ⟨looks, history.aside besides⟩
  | read _ r a ih =>
    cases course with
    | next course _ =>
      obtain ⟨looks, history⟩ := ih course
      exact ⟨looks, history.read r a⟩
  | @look _ s trail r token name kind ih =>
    cases course with
    | next course due =>
      obtain ⟨looks, history⟩ := ih course
      have asked : Asked s.config token name kind := by
        rw [trail.config]
        exact due.asked.1
      exact ⟨_, history.look (l := ⟨s, r, token, name, kind⟩) asked⟩

namespace History

variable {e s : Engine} {looks before after : List Lookup} {l : Lookup} {key : AccessorKey}
variable {a : Accessor}

/-- A history comes to each of its look-ups. -/
theorem moment (h : History e (before ++ l :: after) s) : History e before l.engine ∧ l.Due := by
  generalize hlooks : before ++ l :: after = looks at h
  induction h generalizing after with
  | start => simp at hlooks
  | aside _ _ ih => exact ih hlooks
  | read _ _ _ ih => exact ih hlooks
  | @look past m history due ih =>
    cases after using List.reverseRecOn with
    | nil =>
      obtain ⟨rfl, same⟩ := List.append_inj' hlooks rfl
      obtain rfl := List.singleton_inj.mp same
      exact ⟨history, due⟩
    | append_singleton after last =>
      rw [← List.cons_append, ← List.append_assoc] at hlooks
      exact ih (List.append_inj' hlooks rfl).1

theorem due (h : History e looks s) (mem : l ∈ looks) : l.Due := by
  obtain ⟨before, after, rfl⟩ := List.append_of_mem mem
  exact h.moment.2

/-- **From the start, an accessor is remembered just when a look-up got it.** -/
theorem find?_eq_some_iff (fresh : e.accessors = .empty) (h : History e looks s) :
    s.accessors.find? key = some a ↔ ∃ l ∈ looks, l.key = key ∧ l.Gets a := by
  induction h with
  | start =>
    rw [fresh, ShardedTable.find?_empty]
    simp
  | aside _ besides ih =>
    rw [besides.same.2.1]
    exact ih
  | read _ _ _ ih => exact ih
  | @look past l history _ ih =>
    simp only [List.mem_append, List.mem_singleton, or_and_right, exists_or, exists_eq_left]
    rw [← ih, l.find?_after]
    by_cases same : key = l.key
    · subst same
      rw [if_pos rfl]
      rcases l.remembered_or_asked with
        ⟨b, found, answer, -⟩ | ⟨absent, asks, ⟨missing, answer, -⟩ | ⟨b, given, answer, -⟩⟩
      · have quiet : ¬ l.Asks := by
          rw [Lookup.asks_iff, found]
          exact Option.some_ne_none b
        simp [answer, found, Lookup.Gets, quiet]
      · simp [answer, absent, Lookup.Gets, missing]
      · simp [answer, absent, Lookup.Gets, asks, given]
    · simp [same, Ne.symm same]

/-- The questions to resolve a name are those of the look-ups that ask. -/
theorem questions (h : History e looks s) : s.calls.filter (·.isResolve) =
    ((looks.filter (·.Asks)).map (·.question)).reverse ++ e.calls.filter (·.isResolve) := by
  induction h with
  | start => rfl
  | aside _ besides ih =>
    rw [besides.same.2.2]
    exact ih
  | read _ _ _ ih => exact ih
  | @look past l _ _ ih =>
    have journal : l.after.calls.filter (·.isResolve) =
        (if l.Asks then [l.question] else []) ++ l.engine.calls.filter (·.isResolve) := by
      rcases l.remembered_or_asked with ⟨b, found, -, calls, -⟩ | ⟨-, asks, -⟩
      · have quiet : ¬ l.Asks := by
          rw [Lookup.asks_iff, found]
          exact Option.some_ne_none b
        rw [calls, if_neg quiet]
        rfl
      · rw [if_pos asks]
        exact congrArg (List.filter _) asks
    rw [journal, ih]
    by_cases asks : l.Asks
    · simp [asks]
    · simp [asks]

end History

/-! ## 3. Once for each type, name and kind -/

/-- **Of one type, a name is resolved once at most**, and what it was resolved to stays. -/
structure ResolvedOnce (looks : List Lookup) (s : Engine) : Prop where
  /-- Behind a look-up that got an accessor, no receiver of the type is asked for the name and the
  kind again. -/
  once : looks.Pairwise fun l l' => ∀ a, l.Gets a → l'.subject = l.subject → ¬ l'.Asks
  /-- What a look-up got is there at every later one, and answers those with its key. -/
  kept : looks.Pairwise fun l l' => ∀ a, l.Gets a →
    l'.engine.accessors.find? l.key = some a ∧ (l'.key = l.key → l'.answer = some a)
  /-- What a look-up got is there in the end. -/
  stays : ∀ l ∈ looks, ∀ a, l.Gets a → s.accessors.find? l.key = some a
  /-- Until then the receiver is asked every time, and nothing is remembered when it does not
  resolve the name. -/
  again : ∀ before l after, looks = before ++ l :: after →
    (∀ l' ∈ before, l'.subject = l.subject → ∀ a, ¬ l'.Gets a) →
    l.Asks ∧ (l.receiver.resolve l.name l.kind = none →
      l.answer = none ∧ l.after.accessors = l.engine.accessors)

variable {e s : Engine} {looks : List Lookup}

/-- What holds between every look-up of a history and every later one. -/
theorem History.pairwise {R : Lookup → Lookup → Prop} (h : History e looks s)
    (step : ∀ past l, History e past l.engine → l.Due → ∀ l' ∈ past, R l' l) :
    looks.Pairwise R := by
  induction h with
  | start => exact .nil
  | aside _ _ ih => exact ih
  | read _ _ _ ih => exact ih
  | @look past l history due ih =>
    refine List.pairwise_append.mpr ⟨ih, List.pairwise_singleton .., fun l' mem m hm => ?_⟩
    obtain rfl := List.mem_singleton.mp hm
    exact step past _ history due l' mem

/-- **In every history that begins with nothing remembered, names are resolved once.** -/
theorem History.resolvedOnce (fresh : e.accessors = .empty) (h : History e looks s) :
    ResolvedOnce looks s where
  once := by
    refine h.pairwise fun past l history due l' mem a gets same asks => ?_
    have found := (history.find?_eq_some_iff fresh).mpr ⟨l', mem, rfl, gets⟩
    rw [← (Lookup.subject_eq_iff (history.due mem) due).mp same, Lookup.asks_iff.mp asks] at found
    cases found
  kept := by
    refine h.pairwise fun past l history due l' mem a gets => ?_
    have found := (history.find?_eq_some_iff fresh).mpr ⟨l', mem, rfl, gets⟩
    refine ⟨found, fun same => ?_⟩
    rcases l.remembered_or_asked with ⟨b, given, answer, -⟩ | ⟨absent, -⟩
    · rw [answer, ← given, same, found]
    · rw [same, found] at absent
      cases absent
  stays := fun l mem a gets => (h.find?_eq_some_iff fresh).mpr ⟨l, mem, rfl, gets⟩
  again := by
    rintro before l after rfl never
    obtain ⟨history, due⟩ := h.moment
    rcases l.remembered_or_asked with
      ⟨a, found, -⟩ | ⟨-, asks, ⟨-, answer, table⟩ | ⟨a, given, -⟩⟩
    · obtain ⟨l', mem, same, gets⟩ := (history.find?_eq_some_iff fresh).mp found
      have same := (Lookup.subject_eq_iff due (history.due mem)).mpr same
      exact absurd gets (never l' mem same a)
    · exact ⟨asks, fun _ => ⟨answer, table⟩⟩
    · refine ⟨asks, fun missing => ?_⟩
      rw [given] at missing
      cases missing

end Engine

/-- **A name is resolved once for each type and kind.** Over any run of requests on an engine that
has done nothing yet, with any hosts that work on the engine by requests alone, nested ones included:
the run has a history of look-ups, which are all that puts questions to resolve a name; and in every
such history

* a look-up that gets an accessor is the last one for its type, name and kind that asks a receiver;
* what it got is remembered from then on to the end, and every later look-up of the type and the
  token answers with it;
* up to there every look-up asks its receiver, and one that does not resolve the name leaves nothing
  behind. -/
theorem resolved_once (config : Config) (calls : List Call) (civil : ∀ c ∈ calls, c.Civil) :
    (∃ looks, Engine.History (.ofConfig config) looks ((Engine.ofConfig config).performAll calls)) ∧
    ∀ looks, Engine.History (.ofConfig config) looks ((Engine.ofConfig config).performAll calls) →
      ((Engine.ofConfig config).performAll calls).calls.filter (·.isResolve) =
        ((looks.filter (·.Asks)).map (·.question)).reverse ∧
      Engine.ResolvedOnce looks ((Engine.ofConfig config).performAll calls) := by
  refine ⟨(Engine.performAll_leads civil _).exists_history, fun looks history => ⟨?_, ?_⟩⟩
  · rw [history.questions]
    exact List.append_nil _
  · exact history.resolvedOnce rfl

/-- An entry that answers with a truth value once it has resolved a path. -/
def relayEntry (expression : String) (values : ValueMap) : TableEntry :=
  ⟨.field, "x", 0, fun e => (.ok (.bool true), (e.resolve expression values).2)⟩

theorem civil_relayEntry {values : ValueMap} (civil : values.All Value.Civil)
    (expression : String) : (relayEntry expression values).Civil :=
  ⟨fun _ => [.resolve expression values], fun _ => rfl,
    fun _ => List.forall_mem_singleton.mpr civil, fun _ v hv => by cases hv; exact .bool true⟩

/-- A host of one type with others, by its number. -/
def relay (n : Nat) (expression : String) (values : ValueMap) : Value :=
  .object (.ofTable "Relay" (.numbered n) "Relay" "relay" [relayEntry expression values])

theorem civil_relay {values : ValueMap} (civil : values.All Value.Civil) (n : Nat)
    (expression : String) : (relay n expression values).Civil :=
  Value.civil_ofTable (List.forall_mem_singleton.mpr (civil_relayEntry civil expression)) ..

/-- The first host resolves a path to the field of the second when its own field is read. -/
def relayValues : ValueMap :=
  (ValueMap.empty.insert "a" (relay 0 "b.x" (ValueMap.empty.insert "b" (relay 1 "" .empty)))).insert
    "b" (relay 1 "" .empty)

theorem civil_relayValues : relayValues.All Value.Civil := by
  have second := civil_relay ValueMap.all_empty 1 ""
  exact (ValueMap.all_empty.insert
    (civil_relay (ValueMap.all_empty.insert second "b") 0 "b.x") "a").insert second "b"

/-- A field of both hosts, and a name that neither of them has. -/
def relayRun : List Call :=
  [.resolve "a.x" relayValues, .resolve "b.x" relayValues, .resolve "b.y" relayValues,
    .resolve "a.y" relayValues]

theorem civil_relayRun : ∀ c ∈ relayRun, c.Civil := by
  intro c hc
  simp only [relayRun, List.mem_cons, List.not_mem_nil, or_false] at hc
  rcases hc with rfl | rfl | rfl | rfl <;> exact civil_relayValues

/-- The field is resolved by one host for both of them, and the missing name is asked for twice. -/
theorem resolved_once_relayRun :
    (∀ c ∈ relayRun, c.Civil) ∧ ∃ looks,
      Engine.History (.ofConfig .default) looks ((Engine.ofConfig .default).performAll relayRun) ∧
      Engine.ResolvedOnce looks ((Engine.ofConfig .default).performAll relayRun) ∧
      (looks.filter (·.Asks)).map (·.question) =
        [.resolve (.host "Relay") (.numbered 0) .field "x",
          .resolve (.host "Relay") (.numbered 1) .field "y",
          .resolve (.host "Relay") (.numbered 1) .method "getY",
          .resolve (.host "Relay") (.numbered 0) .field "y",
          .resolve (.host "Relay") (.numbered 0) .method "getY"] := by
  obtain ⟨⟨looks, history⟩, all⟩ := resolved_once .default relayRun civil_relayRun
  obtain ⟨questions, once⟩ := all looks history
  refine ⟨civil_relayRun, looks, history, once, ?_⟩
  rw [← List.reverse_reverse (List.map _ _), ← questions]
  rfl

end Stencil
