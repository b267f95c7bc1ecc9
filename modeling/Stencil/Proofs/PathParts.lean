import Stencil.Proofs.AccessPolicy

/-!
# Paths in parts

A path can be resolved in parts: a front part first, and then the rest of it from the value that the
front came to, under any name, on the engine that the front left.

* `readSteps_append_of_error`: steps fail as the first of them do;
* `RenderError.under`: an error names the path it was met on. On a longer path it is the same but for
  that;
* `resolve_further_of_error`, `resolve_further_of_ok`: a path fails as its front does, and else goes on
  from what its front came to;
* `paths_resolve_in_parts`: so does every path, on every engine; and behind a front that comes to the
  empty value nothing is asked of any host.
-/

namespace Stencil

open Text

/-- The same error, met on another path. -/
def RenderError.under (expression : String) : RenderError → RenderError
  | access _ segment source => access expression segment source
  | error => error

namespace Engine

variable {e s : Engine} {values : ValueMap}

/-! ## 1. Steps -/

/-- Steps fail as the first of them do. -/
theorem readSteps_append_of_error {v : Value} {failure : String × AccessError} {before : List Step}
    (h : e.readSteps v before = (.error failure, s)) (after : List Step) :
    e.readSteps v (before ++ after) = (.error failure, s) := by
  induction before generalizing v e with
  | nil => cases h
  | cons step before ih =>
    rw [List.cons_append]
    by_cases empty : v.isNull = true
    · rw [readSteps_of_isNull empty] at h
      cases h
    · rcases hx : e.readStep v step with ⟨refused | next, t⟩
      · rw [readSteps, if_neg empty, hx] at h ⊢
        exact h
      · rw [readSteps_of_readStep empty hx] at h ⊢
        exact ih h

/-! ## 2. Paths -/

/-- What the steps of a path answer, as the path does. -/
def onPath (expression : String) (answer : Except (String × AccessError) Value) :
    Except RenderError Value :=
  answer.mapError fun (segment, source) => .access expression segment source

theorem onPath_under (expression whole : String) (answer : Except (String × AccessError) Value) :
    (onPath expression answer).mapError (·.under whole) = onPath whole answer := by
  cases answer <;> rfl

/-- Without its root a path is missing that. -/
theorem resolve_of_missing {p : Path} (spelled : p.Spelled) (missing : values.find? p.root = none) :
    e.resolve p.print values = (.error (.keyNotFound p.root), e) := by
  simp only [resolve, spelled.parse?_print, resolvePath, missing]

/-- From its root on, a path is its steps. -/
theorem resolve_of_found {p : Path} (spelled : p.Spelled) {root : Value}
    (found : values.find? p.root = some root) : e.resolve p.print values =
      (onPath p.print (e.readSteps root p.steps).1, (e.readSteps root p.steps).2) := by
  simp only [resolve, spelled.parse?_print, resolvePath, found]
  rcases e.readSteps root p.steps with ⟨⟨segment, source⟩ | v, s⟩ <;> rfl

/-- What steps come to from a value of a name, on a path from that name. -/
theorem resolve_from {t : String} (spelled : isIdentifier t.toList = true) {rest : List Step}
    (names : ∀ s ∈ rest, isIdentifier s.name.toList = true) (v : Value) (e : Engine) :
    e.resolve (Path.print ⟨t, rest⟩) (ValueMap.empty.insert t v) =
      (onPath (Path.print ⟨t, rest⟩) (e.readSteps v rest).1, (e.readSteps v rest).2) := by
  have found : (ValueMap.empty.insert t v).find? t = some v := by
    rw [ValueMap.find?_insert, if_pos rfl]
  exact resolve_of_found (p := ⟨t, rest⟩) ⟨spelled, names⟩ found

section Further

variable {p : Path} {rest : List Step}

/-- **A path fails as its front does**, and the engine is left as the front leaves it. -/
theorem resolve_further_of_error (spelled : p.Spelled)
    (names : ∀ s ∈ rest, isIdentifier s.name.toList = true) {error : RenderError}
    (h : e.resolve p.print values = (.error error, s)) :
    e.resolve (p.further rest).print values = (.error (error.under (p.further rest).print), s) := by
  have whole := spelled.further names
  cases found : values.find? p.root with
  | none =>
    rw [resolve_of_missing spelled found] at h
    cases h
    exact resolve_of_missing whole found
  | some root =>
    rw [resolve_of_found spelled found] at h
    have found' : values.find? (p.further rest).root = some root := found
    rw [resolve_of_found whole found']
    rcases steps : e.readSteps root p.steps with ⟨failure | v, left⟩
    · rw [steps] at h
      cases h
      rw [Path.further, readSteps_append_of_error steps]
      rfl
    · rw [steps] at h
      cases h

/-- **Behind its front a path goes on from what the front came to**, on the engine the front left. -/
theorem resolve_further_of_ok (spelled : p.Spelled)
    (names : ∀ s ∈ rest, isIdentifier s.name.toList = true) {v : Value}
    (h : e.resolve p.print values = (.ok v, s)) :
    e.resolve (p.further rest).print values =
      (onPath (p.further rest).print (s.readSteps v rest).1, (s.readSteps v rest).2) := by
  have whole := spelled.further names
  cases found : values.find? p.root with
  | none =>
    rw [resolve_of_missing spelled found] at h
    cases h
  | some root =>
    rw [resolve_of_found spelled found] at h
    have found' : values.find? (p.further rest).root = some root := found
    rw [resolve_of_found whole found']
    rcases steps : e.readSteps root p.steps with ⟨failure | w, left⟩
    · rw [steps] at h
      cases h
    · rw [steps] at h
      cases h
      rw [Path.further, readSteps_append steps]

end Further

end Engine

/-- **A path can be resolved in parts.** Let a path have a front and a rest. If the front fails, the
path fails with the same error, but for the path that it names. If the front comes to a value, the path
answers what the rest answers from that value, under any name and on the engine that the front left;
so, too, on every engine that allows the same accesses, remembers the same accessors and has put the
same questions to hosts, when hosts leave the engine alone, and the engines stay alike. If the front
comes to the empty value, so does the path, and the engine is left as it is: no host is asked
anything, whatever the rest is. -/
theorem paths_resolve_in_parts {p : Path} (spelled : p.Spelled) {rest : List Step}
    (names : ∀ s ∈ rest, isIdentifier s.name.toList = true) (values : ValueMap) (e : Engine) :
    (∀ error s, e.resolve p.print values = (.error error, s) →
      e.resolve (p.further rest).print values =
        (.error (error.under (p.further rest).print), s)) ∧
    (∀ v s t, e.resolve p.print values = (.ok v, s) → isIdentifier t.toList = true →
      (∀ answer left,
        s.resolve (Path.print ⟨t, rest⟩) (ValueMap.empty.insert t v) = (answer, left) →
        e.resolve (p.further rest).print values =
          (answer.mapError (·.under (p.further rest).print), left)) ∧
      (values.All Value.Quiet → ∀ other, Engine.Alike s other → ∀ answer left,
        other.resolve (Path.print ⟨t, rest⟩) (ValueMap.empty.insert t v) = (answer, left) →
        (e.resolve (p.further rest).print values).1 =
          answer.mapError (·.under (p.further rest).print) ∧
        Engine.Alike (e.resolve (p.further rest).print values).2 left)) ∧
    ∀ s, e.resolve p.print values = (.ok .null, s) →
      e.resolve (p.further rest).print values = (.ok .null, s) := by
  refine ⟨fun error s => Engine.resolve_further_of_error spelled names, ?_, ?_⟩
  · intro v s t front named
    have whole := Engine.resolve_further_of_ok spelled names front
    have onward (answer : Except RenderError Value) (left : Engine)
        (behind : s.resolve (Path.print ⟨t, rest⟩) (ValueMap.empty.insert t v) = (answer, left)) :
        e.resolve (p.further rest).print values =
          (answer.mapError (·.under (p.further rest).print), left) := by
      rw [Engine.resolve_from named names] at behind
      cases behind
      rw [whole, Engine.onPath_under]
    refine ⟨onward, fun quiet other alike answer left behind => ?_⟩
    have reached : v.Quiet :=
      (Engine.resolve_quiet quiet p.print (.refl e)).good v (congrArg Prod.fst front)
    have single : (ValueMap.empty.insert t v).All Value.Quiet := ValueMap.all_empty.insert reached t
    obtain ⟨_, _, _, reads, reads', -, kept⟩ :=
      (Engine.resolve_quiet single (Path.print ⟨t, rest⟩) alike).split
    rw [reads'] at behind
    cases behind
    rw [onward _ _ reads]
    exact ⟨rfl, kept.1⟩
  · intro s front
    rw [Engine.resolve_further_of_ok spelled names front, Engine.readSteps_of_isNull rfl]
    rfl

/-- A desk that nobody is at the head of. -/
def deskTable : List TableEntry :=
  [.holding .field "owner" 0 (.string "Ada"), .holding .field "head" 1 .null]

def deskValues : ValueMap :=
  ValueMap.empty.insert "d" (.object (.ofTable "Desk" (.numbered 0) "Desk" "desk" deskTable))

/-- Calls are forbidden, and so is every name but these two. -/
def deskConfig : Config := (Config.default.withMethodCalls false).withAccessors ["owner", "head"]

theorem paths_resolve_in_parts_desk :
    Path.Spelled ⟨"d", [⟨"head", false⟩]⟩ ∧
    (∀ s ∈ [Step.mk "secret" true], isIdentifier s.name.toList = true) ∧
    ∃ s, (Engine.ofConfig deskConfig).resolve "d.head" deskValues = (.ok .null, s) ∧
      (Engine.ofConfig deskConfig).resolve "d.head.secret()" deskValues = (.ok .null, s) := by
  have spelled : Path.Spelled ⟨"d", [⟨"head", false⟩]⟩ := ⟨by decide, by decide⟩
  have names : ∀ s ∈ [Step.mk "secret" true], isIdentifier s.name.toList = true := by decide
  obtain ⟨-, -, empty⟩ :=
    paths_resolve_in_parts spelled names deskValues (Engine.ofConfig deskConfig)
  exact ⟨spelled, names, _, rfl, empty _ rfl⟩

end Stencil
