import Stencil.Proofs.DerivedTable
import Stencil.Proofs.PathParts
import Stencil.Proofs.TypeRules

/-!
# Paths to the members of an object

An object of a derived table is bound to a name, and a path takes one step from there. Whatever an
engine remembers by then, what it reads is the member of one row of the table.

* `getterName_eq_getterOf`: for words that a path can spell, the getter that is derived is the one
  that is looked for in the place of a missing field;
* `readsMember_of_row`: a step for which the object has the accessor of a row reads the member of that
  row;
* `getters_resolve`: the member of a getter is read by the getter's name and, where no field takes it,
  by the name that was listed;
* `rows_within_reach`: the rows that paths come to are those with names that a path can spell. The
  names of others are under no path (`row_out_of_reach`).
-/

namespace Stencil.Derive

open Text

/-! ## 1. The two names of a getter -/

/-- What begins an identifier is an ASCII character. -/
theorem toNat_lt_of_isNameStart {c : Char} (h : isNameStart c = true) : c.toNat < 0x80 := by
  rcases isNameStart_iff.mp h with ⟨-, le⟩ | ⟨-, le⟩ | rfl
  · have le : c.toNat ≤ 90 := le
    omega
  · have le : c.toNat ≤ 122 := le
    omega
  · decide

/-- **The getter that is derived is the one that is looked for**: a word that a path can spell begins
with a letter that has but one capital. -/
theorem getterName_eq_getterOf {w : Word} (spelled : isIdentifier w.name.toList = true) :
    getterName w = Engine.getterOf w.name := by
  rw [getterName, Engine.getterOf]
  cases hw : w.name.toList with
  | nil =>
    rw [hw] at spelled
    cases spelled
  | cons c cs =>
    rw [hw, isIdentifier, Bool.and_eq_true] at spelled
    have first : upperChar c = [c.toUpper] := upperChar_of_lt (toNat_lt_of_isNameStart spelled.1)
    show "get" ++ String.ofList (upperChar c ++ cs) = _
    rw [first, Text.getterName, ← String.toList_inj]
    simp only [String.toList_append, String.toList_ofList]
    rfl

/-! ## 2. One step from an object -/

/-- The path of a name and one step comes to what a member is read as, behind the look-ups of that
step alone. -/
def ReadsMember (e : Engine) (x : String) (s : Step) (values : ValueMap) (read : MemberReader)
    (m : Member) : Prop :=
  ∃ o t, values.find? x = some (.object o) ∧ Engine.Leads (fun r s' => r = o ∧ s' = s) e t ∧
    e.resolve (Path.print ⟨x, [s]⟩) values =
      ((read m t).1.mapError (.access (Path.print ⟨x, [s]⟩) s.token), (read m t).2)

/-- An object of the table is bound to a name that a path can spell. -/
structure Bound (t : Table) (label : String) (read : MemberReader) (x : String) (values : ValueMap) :
    Prop where
  spelled : isIdentifier x.toList = true
  found : ∃ identity shown, values.find? x = some (.object (t.object label identity shown read))

/-- An object stands under the name that it is inserted by. -/
theorem bound_insert {t : Table} {label : String} {read : MemberReader} {x : String}
    (spelled : isIdentifier x.toList = true) (values : ValueMap) (identity : Identity)
    (shown : String) : Bound t label read x
      (values.insert x (.object (t.object label identity shown read))) := by
  refine ⟨spelled, identity, shown, ?_⟩
  rw [ValueMap.find?_insert, if_pos rfl]

/-- A path of one step fails or ends with that step. -/
theorem readSteps_single (e : Engine) (o : Object Value) (s : Step) : e.readSteps (.object o) [s] =
    ((e.readStep (.object o) s).1.mapError (s.token, ·), (e.readStep (.object o) s).2) := by
  have filled : ¬ (Value.object o).isNull = true := Bool.false_ne_true
  rcases hx : e.readStep (.object o) s with ⟨failure | next, t⟩
  · rw [Engine.readSteps, if_neg filled, hx]
    rfl
  · rw [Engine.readSteps_of_readStep filled hx]
    rfl

variable {d : Declaration} {t : Table} {label : String} {c : Config} {e : Engine} {x : String}
variable {values : ValueMap} {read : MemberReader} {row : Row} {s : Step}

/-- The accessor that a table has for a step. -/
def Table.accessorAt (t : Table) (s : Step) : Option Accessor :=
  if s.call then t.resolve s.name .method
  else (t.resolve s.name .field).or (t.resolve (Engine.getterOf s.name) .method)

/-- **A step for which the table has the accessor of a row reads the member of that row**, whatever
is remembered. -/
theorem readsMember_of_row (accepted : derive d = .ok t) (few : t.rows.length < 0x100000000)
    (follows : Engine.Follows label t.resolve c e) (bound : Bound t label read x values)
    (mem : row ∈ t.rows) (spelled : isIdentifier s.name.toList = true)
    (allowed : c.allowsName s.name = true)
    (right : c.allowMethodCalls = true ∨ s.call = false ∧ row.kind = .field ∧ row.name = s.name)
    (has : t.accessorAt s = t.resolve row.name row.kind) : ReadsMember e x s values read row.member := by
  obtain ⟨root, identity, shown, found⟩ := bound
  obtain ⟨slot, at'⟩ := List.mem_iff_getElem?.mp mem
  have apart := nodup_keys_of_derive accepted
  have resolved := Table.resolve_row few apart at'
  have rule := t.object_resolve label identity shown read
  have reads := (Table.answersBy_object few apart label identity shown read).reads slot row at'
  have type : (t.object label identity shown read).typeKey = .host label := rfl
  -- from here on it is any object that resolves by the table and reads the row
  generalize t.object label identity shown read = o at *
  have typical := Engine.typical_of_goesBy type
  rw [rule] at typical
  have permits : Engine.Permits c o s := by
    refine ⟨allowed, right.imp_right fun ⟨noCall, isField, same⟩ => ⟨noCall, ?_⟩⟩
    rw [rule, ← same, ← isField, resolved]
    rfl
  have has : Engine.accessorAt o s = some ⟨row.kind, slot, row.name⟩ := by
    rw [← resolved, ← has, Engine.accessorAt, Engine.accessorOf, rule]
    rfl
  obtain ⟨u, leads, step⟩ := Engine.Leads.readStep follows typical spelled permits
    (v := .object o) rfl
  rw [has] at step
  dsimp only at step
  rw [reads.2 _ u rfl] at step
  have whole : Path.Spelled ⟨x, [s]⟩ := ⟨root, List.forall_mem_singleton.mpr spelled⟩
  refine ⟨o, u, found, leads, ?_⟩
  rw [Engine.resolve_of_found whole found, readSteps_single, step]
  cases (read row.member u).1 <;> rfl

/-! ## 3. Steps to rows -/

/-- The step that a row is exposed for. -/
def Row.step (row : Row) : Step := ⟨row.name, row.kind = .method⟩

/-- The name of a row is resolved. -/
theorem isSome_resolve_of_mem (few : t.rows.length < 0x100000000) (mem : row ∈ t.rows) :
    (t.resolve row.name row.kind).isSome = true :=
  (Table.isSome_resolve_iff few).mpr ⟨row, mem, rfl, rfl⟩

/-- **The step that a row is exposed for reads its member.** -/
theorem readsMember_step (accepted : derive d = .ok t) (few : t.rows.length < 0x100000000)
    (follows : Engine.Follows label t.resolve c e) (bound : Bound t label read x values)
    (mem : row ∈ t.rows) (spelled : isIdentifier row.name.toList = true)
    (allowed : c.allowsName row.name = true)
    (right : c.allowMethodCalls = true ∨ row.kind = .field) :
    ReadsMember e x row.step values read row.member := by
  have given := isSome_resolve_of_mem few mem
  cases kind : row.kind with
  | field =>
    have step : row.step = ⟨row.name, false⟩ := by simp [Row.step, kind]
    rw [step]
    refine readsMember_of_row accepted few follows bound mem spelled allowed (.inr ⟨rfl, kind, rfl⟩) ?_
    rw [kind] at given ⊢
    exact Option.or_of_isSome given
  | method =>
    have step : row.step = ⟨row.name, true⟩ := by simp [Row.step, kind]
    have calls : c.allowMethodCalls = true := by
      refine right.resolve_right fun isField => ?_
      rw [kind] at isField
      cases isField
    rw [step]
    refine readsMember_of_row accepted few follows bound mem spelled allowed (.inl calls) ?_
    rw [kind]
    rfl

/-- A step to a name that no field has reads the member of its getter. -/
theorem readsMember_getter (accepted : derive d = .ok t) (few : t.rows.length < 0x100000000)
    (follows : Engine.Follows label t.resolve c e) (bound : Bound t label read x values)
    (mem : row ∈ t.rows) (isMethod : row.kind = .method) {name : String}
    (getter : row.name = Engine.getterOf name) (free : ∀ f, .ofField name f ∉ t.rows)
    (spelled : isIdentifier name.toList = true) (allowed : c.allowsName name = true)
    (calls : c.allowMethodCalls = true) : ReadsMember e x ⟨name, false⟩ values read row.member := by
  refine readsMember_of_row accepted few follows bound mem spelled allowed (.inl calls) ?_
  have missing : t.resolve name .field = none := by
    rw [← Option.not_isSome_iff_eq_none, Table.isSome_resolve_iff few]
    intro taken
    obtain ⟨⟨name', member⟩, there, isField, rfl⟩ := taken
    cases member with
    | field f => exact free f there
    | method w => cases isField
  show (t.resolve name .field).or (t.resolve (Engine.getterOf name) .method) = _
  rw [missing, isMethod, getter]
  rfl

/-! ## 4. Getters -/

/-- The words that attributes list have rows. -/
theorem mem_rows_listed (accepted : derive d = .ok t) :
    (∀ w ∈ listed "methods" d.attributes, .ofMethod w ∈ t.rows) ∧
      ∀ w ∈ listed "getters" d.attributes, .ofGetter w ∈ t.rows := by
  obtain ⟨fields, -, -, named, -⟩ := derive_eq_ok_iff.mp accepted
  rw [rows_eq_rowsOf accepted named]
  constructor
  · intro w mem
    exact List.mem_append_right _ (List.mem_append_left _ (List.mem_map_of_mem mem))
  · intro w mem
    exact List.mem_append_right _ (List.mem_append_right _ (List.mem_map_of_mem mem))

/-- Rows of one kind with one name are one row. -/
theorem row_unique (accepted : derive d = .ok t) {row' : Row} (mem : row ∈ t.rows)
    (mem' : row' ∈ t.rows) (kinds : row'.kind = row.kind) (names : row'.name = row.name) :
    row' = row :=
  List.inj_on_of_nodup_map (nodup_keys_of_derive accepted) mem' mem (Prod.ext kinds names)

/-- A getter has a longer name than what it is the getter of. -/
theorem getterOf_ne (name : String) : Engine.getterOf name ≠ name := by
  intro same
  have longer : (Text.getterName name.toList).length = name.toList.length := by
    rw [← String.toList_ofList (l := Text.getterName name.toList)]
    exact congrArg (·.toList.length) same
  cases h : name.toList with
  | nil =>
    rw [h] at longer
    cases longer
  | cons c cs =>
    rw [h, Text.getterName] at longer
    simp only [List.length_cons] at longer
    omega

/-- **The derived getter is the one that is called.** Let a declaration that is accepted, with fewer
rows than there are slots, list a word among its getters that a path can spell. Let an object of its
type be bound to a name, and let the engine be in any state in which the objects of the type went by its
table. Then the name of the getter is the one that is looked for in the place of a missing field, no
other method or getter that is listed has it, and so far as the configuration allows it

* the path to the word reads the field of that name, when there is a row of one;
* when there is none, the path to the word calls the method;
* the path to the getter calls the method in either case. -/
theorem getters_resolve (accepted : derive d = .ok t) (few : t.rows.length < 0x100000000) {w : Word}
    (mem : w ∈ listed "getters" d.attributes) (spelled : isIdentifier w.name.toList = true)
    (follows : Engine.Follows label t.resolve c e) (bound : Bound t label read x values) :
    getterName w = Engine.getterOf w.name ∧
      (∀ w' ∈ listed "methods" d.attributes, w'.name ≠ Engine.getterOf w.name) ∧
      (∀ w' ∈ listed "getters" d.attributes, getterName w' = Engine.getterOf w.name → w' = w) ∧
      (c.allowsName w.name = true →
        (∀ f, .ofField w.name f ∈ t.rows →
          ReadsMember e x ⟨w.name, false⟩ values read (.field f)) ∧
        (c.allowMethodCalls = true → (∀ f, .ofField w.name f ∉ t.rows) →
          ReadsMember e x ⟨w.name, false⟩ values read (.method w))) ∧
      (c.allowsName (Engine.getterOf w.name) = true → c.allowMethodCalls = true →
        ReadsMember e x ⟨Engine.getterOf w.name, true⟩ values read (.method w)) := by
  have names := getterName_eq_getterOf spelled
  obtain ⟨methods, getters⟩ := mem_rows_listed accepted
  have own := getters w mem
  refine ⟨names, ?_, ?_, fun allowed => ⟨?_, ?_⟩, ?_⟩
  · intro w' mem' same
    have rows := row_unique accepted own (methods w' mem') rfl (same.trans names.symm)
    injection rows with _ members
    cases members
    exact getterOf_ne w.name same.symm
  · intro w' mem' same
    have rows := row_unique accepted own (getters w' mem') rfl (same.trans names.symm)
    injection rows with _ members
    cases members
    rfl
  · intro f taken
    exact readsMember_step accepted few follows bound taken spelled allowed (.inr rfl)
  · intro calls free
    exact readsMember_getter accepted few follows bound own rfl names free spelled allowed calls
  · intro allowed calls
    have getter : isIdentifier (Engine.getterOf w.name).toList = true := by
      rw [Engine.getterOf, String.toList_ofList]
      exact isIdentifier_getterName spelled
    rw [← names] at getter allowed ⊢
    exact readsMember_step accepted few follows bound own getter allowed (.inl calls)

/-- A member is read as the text that reads it. -/
def readText : MemberReader := fun m e => (.ok (.string m.text), e)

/-- An object of a table, read that way, goes by the table. -/
theorem upholds_readText (t : Table) (label : String) (identity : Identity) (shown : String) :
    (Value.object (t.object label identity shown readText)).Upholds (Object.GoesBy label t.resolve) := by
  have reads : ∀ a e, ((t.object label identity shown readText).invoke a e).2 = e ∧
      ∀ v, ((t.object label identity shown readText).invoke a e).1 = .ok v → ∃ s, v = .string s := by
    intro a e
    rw [Table.object_invoke]
    cases t.member? a.slot with
    | none => exact ⟨rfl, nofun⟩
    | some m => exact ⟨rfl, fun v hv => by cases hv; exact ⟨_, rfl⟩⟩
  refine .object _ (fun _ => t.object_resolve ..) (fun _ _ => []) (fun a e => (reads a e).1)
    (fun _ _ _ h => nomatch h) (fun a e v hv => ?_)
  obtain ⟨s, rfl⟩ := (reads a e).2 v hv
  exact .string s

def accountValues : ValueMap := ValueMap.empty.insert "a"
  (.object (accountTable.object "Account" (.numbered 0) "an account" readText))

/-- The getter, the field in front of it, and the method. -/
def accountRun : List Call := [.render "{a.age} {a.pw} {a.full_name()}" accountValues]

/-- An engine that has rendered an account. -/
def accountEngine : Engine := (Engine.ofConfig .default).performAll accountRun

theorem follows_accountEngine :
    Engine.Follows "Account" accountTable.resolve .default accountEngine := by
  refine Engine.follows_performAll ?_ .default
  intro call mem
  obtain rfl := List.mem_singleton.mp mem
  exact ValueMap.all_empty.insert (upholds_readText ..) "a"

theorem bound_accountValues : Bound accountTable "Account" readText "a" accountValues :=
  bound_insert (by decide) ..

/-- No field of the account is called `age`, so that both paths call the method. -/
theorem getters_resolve_account :
    derive accountDeclaration = .ok accountTable ∧ accountTable.rows.length < 0x100000000 ∧
      .plain "age" ∈ listed "getters" accountDeclaration.attributes ∧
      isIdentifier "age".toList = true ∧
      Engine.Follows "Account" accountTable.resolve .default accountEngine ∧
      Bound accountTable "Account" readText "a" accountValues ∧
      ReadsMember accountEngine "a" ⟨"age", false⟩ accountValues readText (.method (.plain "age")) ∧
      ReadsMember accountEngine "a" ⟨"getAge", true⟩ accountValues readText (.method (.plain "age")) := by
  have few : accountTable.rows.length < 0x100000000 := by decide
  have mem : .plain "age" ∈ listed "getters" accountDeclaration.attributes := by
    rw [← (Options.lists_of_ofAttributes options_accountDeclaration).2]
    exact List.mem_singleton_self _
  have spelled : isIdentifier (Word.plain "age").name.toList = true := by decide
  have free : ∀ f, .ofField "age" f ∉ accountTable.rows := by
    simp [accountTable, Row.ofField, Row.ofMethod, Row.ofGetter]
  obtain ⟨-, -, -, own, getter⟩ := getters_resolve derive_accountDeclaration few mem spelled
    follows_accountEngine bound_accountValues
  exact ⟨derive_accountDeclaration, few, mem, spelled, follows_accountEngine, bound_accountValues,
    (own rfl).2 rfl free, getter rfl rfl⟩

/-! ## 5. Rows that no path comes to -/

/-- **What no path can spell no path comes to**: the name is neither that of a step nor that of the
getter in its place. -/
theorem row_out_of_reach {name : String} (unspelled : isIdentifier name.toList = false)
    {text : String} {p : Path} (parsed : Path.parse? text = some p) :
    ∀ s ∈ p.steps, s.name ≠ name ∧ Engine.getterOf s.name ≠ name := by
  intro s mem
  have spelled := Path.isIdentifier_of_parse? parsed mem
  constructor
  · intro same
    rw [same, unspelled] at spelled
    cases spelled
  · intro same
    have getter := isIdentifier_getterName spelled
    rw [← String.toList_ofList (l := Text.getterName s.name.toList), ← Engine.getterOf, same,
      unspelled] at getter
    cases getter

/-- The name that is given to a field with a row can be spelled. -/
theorem isIdentifier_of_given (accepted : derive d = .ok t) (mem : row ∈ t.rows) {f : Field}
    (reads : row.member = .field f) {given : String}
    (named : givenName? (counting f.attributes) = some given) :
    isIdentifier row.name.toList = true := by
  obtain ⟨fields, -, -, hd, -⟩ := derive_eq_ok_iff.mp accepted
  have isField : row.kind = .field := congrArg Member.kind reads
  obtain ⟨g, -, hg⟩ := ((mem_rows_field hd accepted).2 row isField).mp mem
  obtain ⟨-, kept⟩ := Field.row?_eq_ok_iff.mp hg
  split at kept
  · cases kept
  · obtain ⟨spelled, own⟩ := kept
    cases own
    cases reads
    rw [named]
    exact spelled given named

/-- **The rows that paths come to.** Let a declaration be accepted, with fewer rows than there are slots.
Let an object of its type be bound to a name, let the configuration allow everything, and let the engine
be in any state in which the objects of the type went by its table. Of every row of the table

* the path to it is read as that path just when its name can be spelled, and then it reads the member;
* a name that cannot be spelled is that of no step of any path, nor of a getter in the place of one;
* the name can be spelled when it was given to the field by an attribute. -/
theorem rows_within_reach (accepted : derive d = .ok t) (few : t.rows.length < 0x100000000)
    (free : c.allowedAccessors = none) (calls : c.allowMethodCalls = true)
    (follows : Engine.Follows label t.resolve c e) (bound : Bound t label read x values) :
    ∀ row ∈ t.rows,
      (Path.parse? (Path.print ⟨x, [row.step]⟩) = some ⟨x, [row.step]⟩ ↔
        isIdentifier row.name.toList = true) ∧
      (isIdentifier row.name.toList = true → ReadsMember e x row.step values read row.member) ∧
      (isIdentifier row.name.toList = false → ∀ text p, Path.parse? text = some p →
        ∀ s ∈ p.steps, s.name ≠ row.name ∧ Engine.getterOf s.name ≠ row.name) ∧
      ∀ f given, row.member = .field f → givenName? (counting f.attributes) = some given →
        isIdentifier row.name.toList = true := by
  intro row mem
  refine ⟨?_, fun spelled => ?_, fun unspelled text p parsed => row_out_of_reach unspelled parsed,
    fun f given reads named => isIdentifier_of_given accepted mem reads named⟩
  · rw [Path.parse?_eq_some_iff, and_iff_left rfl]
    exact ⟨fun whole => whole.steps row.step (List.mem_singleton_self _),
      fun spelled => ⟨bound.spelled, List.forall_mem_singleton.mpr spelled⟩⟩
  · have allowed : c.allowsName row.name = true := by rw [Config.allowsName, free]
    exact readsMember_step accepted few follows bound mem spelled allowed (.inl calls)

/-- A field with a letter in its name that is not ASCII, and one without. -/
def sizeField : Field := ⟨.plain "größe", [.word (.plain "u32")], []⟩

def titleField : Field := ⟨.plain "title", [.word (.plain "String")], []⟩

def posterDeclaration : Declaration := ⟨[], .plain "Poster", [], [], .named [sizeField, titleField]⟩

def posterTable : Table := ⟨"Poster", [.ofField "größe" sizeField, .ofField "title" titleField], false⟩

theorem derive_posterDeclaration : derive posterDeclaration = .ok posterTable := rfl

def posterValues : ValueMap := ValueMap.empty.insert "p"
  (.object (posterTable.object "Poster" (.numbered 0) "a poster" readText))

theorem bound_posterValues : Bound posterTable "Poster" readText "p" posterValues :=
  bound_insert (by decide) ..

theorem rows_within_reach_poster :
    derive posterDeclaration = .ok posterTable ∧ posterTable.rows.length < 0x100000000 ∧
      Engine.Follows "Poster" posterTable.resolve .default (.ofConfig .default) ∧
      Bound posterTable "Poster" readText "p" posterValues ∧
      ReadsMember (.ofConfig .default) "p" ⟨"title", false⟩ posterValues readText (.field titleField) ∧
      Path.parse? "p.größe" ≠ some ⟨"p", [⟨"größe", false⟩]⟩ := by
  have few : posterTable.rows.length < 0x100000000 := by decide
  have follows : Engine.Follows "Poster" posterTable.resolve .default (.ofConfig .default) :=
    Engine.Leads.refl _
  have rows := rows_within_reach derive_posterDeclaration few rfl rfl follows bound_posterValues
  have size := (rows (.ofField "größe" sizeField) (by simp [posterTable])).1
  have title := (rows (.ofField "title" titleField) (by simp [posterTable])).2.1
  exact ⟨derive_posterDeclaration, few, follows, bound_posterValues, title (by decide),
    fun parsed => absurd (size.mp parsed) (by decide)⟩

/-- **A row can be out of reach**: a declaration is accepted with a field that no path can spell. -/
theorem accepted_row_unspelled : ¬ ∀ (d : Declaration) (t : Table), derive d = .ok t →
    ∀ row ∈ t.rows, ∀ x, isIdentifier x.toList = true →
      ∃ p, Path.parse? (Path.print ⟨x, [row.step]⟩) = some p := by
  intro all
  obtain ⟨p, parsed⟩ := all _ _ derive_posterDeclaration (.ofField "größe" sizeField)
    (by simp [posterTable]) "p" (by decide)
  have none : Path.parse? "p.größe" = none := by decide
  rw [show Path.print ⟨"p", [(Row.ofField "größe" sizeField).step]⟩ = "p.größe" from rfl, none] at parsed
  cases parsed

end Stencil.Derive
