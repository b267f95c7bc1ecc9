import Stencil.Engine.Resolve

/-!
# The grammar of paths

A path is a name and then names behind dots, each of which may be called. Reading splits the text at
its dots and takes a call's mark off each part; that accepts the texts of the grammar and no other, and
is the inverse of writing.

* `PathText`: the texts of the grammar, character by character;
* `Path.Spelled`: all the names of a path are names of the grammar. Such a path is written as a text of
  the grammar, and each text is one (`pathText_iff`);
* `Step.parse?_eq_some_iff`, `Path.parse?_eq_some_iff`: what is read is what is written that way;
* `paths_are_their_grammar`: so paths and the texts of the grammar are one to one, and every other text
  is refused as a whole.
-/

namespace Stencil

open Text

/-! ## 1. Texts of the grammar -/

/-- A letter or an underscore. -/
def IsLetter (c : Char) : Prop := ('A' ≤ c ∧ c ≤ 'Z') ∨ ('a' ≤ c ∧ c ≤ 'z') ∨ c = '_'

/-- A letter, an underscore or a digit. -/
def IsLetterOrDigit (c : Char) : Prop := IsLetter c ∨ ('0' ≤ c ∧ c ≤ '9')

/-- A name: `[A-Za-z_][A-Za-z0-9_]*`. -/
inductive NameText : List Char → Prop where
  | intro {c : Char} {cs : List Char} (first : IsLetter c) (rest : ∀ x ∈ cs, IsLetterOrDigit x) :
      NameText (c :: cs)

/-- A path: `name ( "." name "()"? )*`. -/
inductive PathText : List Char → Prop where
  | root {name : List Char} (spelled : NameText name) : PathText name
  | field {cs name : List Char} (path : PathText cs) (spelled : NameText name) :
      PathText (cs ++ '.' :: name)
  | call {cs name : List Char} (path : PathText cs) (spelled : NameText name) :
      PathText (cs ++ '.' :: (name ++ ['(', ')']))

theorem isUpper_iff {c : Char} : c.isUpper = true ↔ 'A' ≤ c ∧ c ≤ 'Z' := decide_eq_true_iff

theorem isLower_iff {c : Char} : c.isLower = true ↔ 'a' ≤ c ∧ c ≤ 'z' :=
  Bool.and_eq_true_iff.trans (and_congr decide_eq_true_iff decide_eq_true_iff)

theorem isDigit_iff {c : Char} : c.isDigit = true ↔ '0' ≤ c ∧ c ≤ '9' :=
  Bool.and_eq_true_iff.trans (and_congr decide_eq_true_iff decide_eq_true_iff)

theorem isNameStart_iff {c : Char} : isNameStart c = true ↔ IsLetter c := by
  have alpha : c.isAlpha = (c.isUpper || c.isLower) := rfl
  rw [isNameStart, alpha, Bool.or_eq_true, Bool.or_eq_true, isUpper_iff, isLower_iff, beq_iff_eq,
    or_assoc]
  rfl

theorem isNameChar_iff {c : Char} : isNameChar c = true ↔ IsLetterOrDigit c := by
  have alphanum : isNameChar c = ((c.isAlpha || c.isDigit) || c == '_') := rfl
  rw [alphanum, Bool.or_right_comm, ← isNameStart, Bool.or_eq_true, isNameStart_iff, isDigit_iff]
  rfl

/-- An identifier is a name of the grammar. -/
theorem isIdentifier_iff {cs : List Char} : isIdentifier cs = true ↔ NameText cs := by
  cases cs with
  | nil => constructor <;> nofun
  | cons c cs =>
    rw [isIdentifier, Bool.and_eq_true, List.all_eq_true, isNameStart_iff]
    simp only [isNameChar_iff]
    constructor
    · rintro ⟨first, rest⟩
      exact .intro first rest
    · rintro ⟨first, rest⟩
      exact ⟨first, rest⟩

/-! ## 2. Tokens -/

/-- The characters of a call's token. -/
theorem toList_callToken (name : String) : (callToken name).toList = name.toList ++ ['(', ')'] := by
  rw [callToken, String.toList_append]
  rfl

namespace Step

theorem toList_token_field (name : String) : (token ⟨name, false⟩).toList = name.toList := rfl

theorem toList_token_call (name : String) :
    (token ⟨name, true⟩).toList = name.toList ++ ['(', ')'] := toList_callToken name

/-- The call's mark is what is taken off. -/
theorem dropCall?_eq_some_iff {cs name : List Char} :
    dropCall? cs = some name ↔ cs = name ++ ['(', ')'] := by
  have turned : cs = name ++ ['(', ')'] ↔ cs.reverse = ')' :: '(' :: name.reverse := by
    rw [← List.reverse_inj, List.reverse_append]
    rfl
  rw [turned]
  -- the mark is looked for from the end
  unfold dropCall?
  split
  · next rest ends =>
    rw [ends, Option.some.injEq, List.cons.injEq, List.cons.injEq, List.reverse_eq_iff]
    simp
  · next other => exact ⟨nofun, fun ends => absurd ends (other _)⟩

/-- A name has no call's mark. -/
theorem dropCall?_of_isIdentifier {cs : List Char} (spelled : isIdentifier cs = true) :
    dropCall? cs = none := by
  refine Option.eq_none_iff_forall_ne_some.mpr fun name marked => ?_
  rw [dropCall?_eq_some_iff] at marked
  have mark := isNameChar_of_mem spelled '(' (by simp [marked])
  revert mark
  decide

/-- **A step is read from its token**, and from nothing else. -/
theorem parse?_eq_some_iff {cs : List Char} {s : Step} :
    parse? cs = some s ↔ isIdentifier s.name.toList = true ∧ cs = s.token.toList := by
  obtain ⟨name, call⟩ := s
  constructor
  · intro read
    unfold parse? at read
    cases marked : dropCall? cs with
    | some called =>
      simp only [marked] at read
      obtain ⟨spelled, same⟩ := Option.ite_none_right_eq_some.mp read
      cases same
      rw [toList_token_call, String.toList_ofList]
      exact ⟨spelled, dropCall?_eq_some_iff.mp marked⟩
    | none =>
      simp only [marked] at read
      obtain ⟨spelled, same⟩ := Option.ite_none_right_eq_some.mp read
      cases same
      rw [toList_token_field, String.toList_ofList]
      exact ⟨spelled, rfl⟩
  · rintro ⟨spelled, rfl⟩
    cases call with
    | true =>
      rw [toList_token_call, parse?, dropCall?_eq_some_iff.mpr rfl]
      simp only at spelled ⊢
      rw [if_pos spelled, String.ofList_toList]
    | false =>
      rw [toList_token_field, parse?, dropCall?_of_isIdentifier spelled]
      simp only at spelled ⊢
      rw [if_pos spelled, String.ofList_toList]

/-- **A token spells one step only.** -/
theorem eq_of_token_eq {s s' : Step} (spelled : isIdentifier s.name.toList = true)
    (spelled' : isIdentifier s'.name.toList = true) (h : s.token = s'.token) : s = s' := by
  have read := parse?_eq_some_iff.mpr ⟨spelled, rfl⟩
  rw [h, parse?_eq_some_iff.mpr ⟨spelled', rfl⟩] at read
  exact (Option.some.inj read).symm

/-- Steps are read from their tokens. -/
theorem mapM_parse?_eq_some_iff {parts : List (List Char)} {steps : List Step} :
    parts.mapM parse? = some steps ↔
      (∀ s ∈ steps, isIdentifier s.name.toList = true) ∧ parts = steps.map (·.token.toList) := by
  induction parts generalizing steps with
  | nil => cases steps <;> simp
  | cons part parts ih =>
    simp only [List.mapM_cons, Option.bind_eq_bind, Option.bind_eq_some_iff, Option.pure_def,
      Option.some.injEq, parse?_eq_some_iff, ih]
    constructor
    · rintro ⟨s, ⟨first, rfl⟩, steps, ⟨rest, rfl⟩, rfl⟩
      exact ⟨List.forall_mem_cons.mpr ⟨first, rest⟩, rfl⟩
    · rintro ⟨spelled, written⟩
      cases steps with
      | nil => cases written
      | cons s steps =>
        obtain ⟨first, rest⟩ := List.forall_mem_cons.mp spelled
        cases written
        exact ⟨s, ⟨first, rfl⟩, steps, ⟨rest, rfl⟩, rfl⟩

end Step

/-! ## 3. Paths -/

/-- A text of the grammar goes on with steps. -/
theorem PathText.steps {cs : List Char} (path : PathText cs) {steps : List Step}
    (names : ∀ s ∈ steps, isIdentifier s.name.toList = true) :
    PathText (cs ++ steps.flatMap fun s => '.' :: s.token.toList) := by
  induction steps generalizing cs with
  | nil => simpa using path
  | cons s steps ih =>
    obtain ⟨first, rest⟩ := List.forall_mem_cons.mp names
    have spelled := isIdentifier_iff.mp first
    rw [List.flatMap_cons, ← List.append_assoc]
    refine ih ?_ rest
    obtain ⟨name, call⟩ := s
    cases call with
    | true =>
      rw [Step.toList_token_call]
      exact path.call spelled
    | false => exact path.field spelled

namespace Path

/-- All the names of a path are identifiers. -/
structure Spelled (p : Path) : Prop where
  root : isIdentifier p.root.toList = true
  steps : ∀ s ∈ p.steps, isIdentifier s.name.toList = true

/-- The path that goes on from the end of another. -/
def further (p : Path) (steps : List Step) : Path := ⟨p.root, p.steps ++ steps⟩

theorem Spelled.further {p : Path} (spelled : p.Spelled) {steps : List Step}
    (names : ∀ s ∈ steps, isIdentifier s.name.toList = true) : (p.further steps).Spelled :=
  ⟨spelled.root, List.forall_mem_append.mpr ⟨spelled.steps, names⟩⟩

/-- **A path is written as its root and then a dot and the token of each step.** -/
theorem toList_print (p : Path) :
    p.print.toList = p.root.toList ++ p.steps.flatMap fun s => '.' :: s.token.toList := by
  rw [print, String.toList_intercalate, List.map_cons, List.map_map]
  exact (intercalate_eq_flatMap '.' _ _).trans (by rw [List.flatMap_map]; rfl)

theorem toList_print_further (p : Path) (s : Step) :
    (p.further [s]).print.toList = p.print.toList ++ '.' :: s.token.toList := by
  simp [toList_print, further]

theorem undotted {cs : List Char} (spelled : isIdentifier cs = true) : '.' ∉ cs := fun dot =>
  absurd (isNameChar_of_mem spelled '.' dot) (by decide)

/-- The dots of a path are those that it is written with. -/
theorem Spelled.splitAt_print {p : Path} (spelled : p.Spelled) :
    splitAt '.' p.print.toList = p.root.toList :: p.steps.map (·.token.toList) := by
  rw [print, String.toList_intercalate, List.map_cons, List.map_map]
  refine splitAt_intercalate (List.forall_mem_cons.mpr ⟨undotted spelled.root, ?_⟩)
  refine List.forall_mem_map.mpr fun s hs => ?_
  obtain ⟨name, call⟩ := s
  cases call with
  | true => simpa [Step.toList_token_call] using undotted (spelled.steps _ hs)
  | false => exact undotted (spelled.steps _ hs)

/-- **What is read is what is written**, for paths of identifiers. -/
theorem parse?_eq_some_iff {text : String} {p : Path} :
    parse? text = some p ↔ p.Spelled ∧ p.print = text := by
  constructor
  · intro read
    -- each part is a token, and the parts make up the text again
    have joined := joinWith_splitAt '.' text.toList
    unfold parse? at read
    split at read
    · cases read
    next root parts parted =>
    obtain ⟨first, read⟩ := Option.ite_none_right_eq_some.mp read
    obtain ⟨steps, taken, rfl⟩ := Option.map_eq_some_iff.mp read
    obtain ⟨rest, rfl⟩ := Step.mapM_parse?_eq_some_iff.mp taken
    refine ⟨⟨by rwa [String.toList_ofList], rest⟩, String.toList_injective ?_⟩
    rw [toList_print, ← joined, parted, joinWith_eq_flatMap, String.toList_ofList, List.flatMap_map]
  · rintro ⟨spelled, rfl⟩
    rw [parse?, spelled.splitAt_print]
    dsimp only
    rw [if_pos spelled.root, Step.mapM_parse?_eq_some_iff.mpr ⟨spelled.steps, rfl⟩,
      String.ofList_toList]
    rfl

/-- A path that is written is read again. -/
theorem Spelled.parse?_print {p : Path} (spelled : p.Spelled) : parse? p.print = some p :=
  parse?_eq_some_iff.mpr ⟨spelled, rfl⟩

/-- An identifier is a path without steps. -/
theorem parse?_of_isIdentifier {name : String} (spelled : isIdentifier name.toList = true) :
    parse? name = some ⟨name, []⟩ :=
  parse?_eq_some_iff.mpr ⟨⟨spelled, nofun⟩, String.toList_injective (by simp [toList_print])⟩

/-- Every step of a path that was read has an identifier for its name. -/
theorem isIdentifier_of_parse? {text : String} {p : Path} (read : parse? text = some p) {s : Step}
    (taken : s ∈ p.steps) : isIdentifier s.name.toList = true :=
  (parse?_eq_some_iff.mp read).1.steps s taken

/-- **The texts of the grammar are those of paths of identifiers.** -/
theorem pathText_iff {cs : List Char} :
    PathText cs ↔ ∃ p : Path, p.Spelled ∧ p.print.toList = cs := by
  constructor
  · intro path
    induction path with
    | @root name spelled =>
      refine ⟨⟨String.ofList name, []⟩, ⟨?_, nofun⟩, by simp [toList_print]⟩
      rw [String.toList_ofList]
      exact isIdentifier_iff.mpr spelled
    | @field cs name _ spelled ih =>
      obtain ⟨p, whole, rfl⟩ := ih
      have named := isIdentifier_iff.mpr spelled
      refine ⟨p.further [⟨String.ofList name, false⟩], whole.further ?_, ?_⟩
      · simpa using named
      · rw [toList_print_further, Step.toList_token_field, String.toList_ofList]
    | @call cs name _ spelled ih =>
      obtain ⟨p, whole, rfl⟩ := ih
      have named := isIdentifier_iff.mpr spelled
      refine ⟨p.further [⟨String.ofList name, true⟩], whole.further ?_, ?_⟩
      · simpa using named
      · rw [toList_print_further, Step.toList_token_call, String.toList_ofList]
  · rintro ⟨p, spelled, rfl⟩
    rw [toList_print]
    exact PathText.steps (.root (isIdentifier_iff.mp spelled.root)) spelled.steps

end Path

namespace Engine

/-- A text outside the grammar is refused before anything is looked up. -/
theorem resolve_of_not_path {text : String} (other : Path.parse? text = none) (values : ValueMap)
    (e : Engine) : e.resolve text values = (.error (.unsupportedExpression text), e) := by
  rw [resolve, other]

/-- What a path comes to is never that it is none. -/
theorem resolvePath_ne_unsupported (expression text : String) (path : Path) (values : ValueMap)
    (e : Engine) :
    (e.resolvePath expression path values).1 ≠ .error (.unsupportedExpression text) := by
  unfold resolvePath
  split
  · nofun
  · split <;> nofun

end Engine

/-- **Paths are the texts of their grammar.** A text is read as a path if and only if it is a text of
the grammar. It is read as the path that it is the writing of, all of whose names are identifiers: so
the text is the root and then a dot and the token of each step, and each path of identifiers is read
again from what it is written as. A text is refused as no path if and only if it is none of the grammar,
with the whole text and before the engine does anything. -/
theorem paths_are_their_grammar :
    (∀ text, (∃ p, Path.parse? text = some p) ↔ PathText text.toList) ∧
    (∀ text p, Path.parse? text = some p ↔ p.Spelled ∧ p.print = text) ∧
    (∀ p : Path, p.print.toList =
      p.root.toList ++ p.steps.flatMap fun s => '.' :: s.token.toList) ∧
    ∀ (text refused : String) (values : ValueMap) (e : Engine),
      (e.resolve text values).1 = .error (.unsupportedExpression refused) ↔
        ¬ PathText text.toList ∧ refused = text ∧ (e.resolve text values).2 = e := by
  have read (text : String) : (∃ p, Path.parse? text = some p) ↔ PathText text.toList := by
    simp only [Path.parse?_eq_some_iff, Path.pathText_iff, String.toList_inj]
  refine ⟨read, fun _ _ => Path.parse?_eq_some_iff, Path.toList_print, fun text refused values e => ?_⟩
  rw [← read]
  cases parsed : Path.parse? text with
  | none =>
    rw [Engine.resolve_of_not_path parsed]
    simp [eq_comm]
  | some p =>
    have other := Engine.resolvePath_ne_unsupported text refused p values e
    rw [Engine.resolve, parsed]
    exact ⟨fun same => absurd same other, fun ⟨outside, _⟩ => absurd ⟨p, rfl⟩ outside⟩

/-- A call of the root, an empty name, a second call, a blank and a letter that is not ASCII. -/
example : ∀ text ∈ ["user()", "a..b", "a.b()()", "a. b", "a.é"], Path.parse? text = none := by decide

end Stencil
