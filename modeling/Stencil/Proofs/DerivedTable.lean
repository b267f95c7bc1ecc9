import Stencil.Derive.Object
import Stencil.Proofs.FieldAttributes
import Mathlib.Data.List.Nodup

/-!
# The table of a declaration, row by row

What a declaration asks for can be said without deriving anything (`Declaration.rowsAsked`): a row for
each field that is not left out, one for each method that is listed, and one for each getter. What is
derived is that, and an object of the type goes by it:

* `Options.lists_of_ofAttributes`: the options of a declaration are what all its attributes list;
* `rows_of_derive`, `nodup_keys_of_derive`: the rows are those that are asked for, and no two of one
  kind have one name;
* `AnswersBy`: names resolve to the rows, and the number of a row is the slot that reads it.
  `answersBy_object` has this of every table whose rows are all different;
* `derived_table`: the whole of it, for a declaration that is accepted.
-/

namespace Stencil.Derive

/-! ## 1. What is asked for -/

/-- The words that an item lists under a name. -/
def Meta.words (list : String) : Meta → List Word
  | .list name _ arguments =>
    if name.is list then (terminated readIdentifier arguments).toOption.getD [] else []
  | .alone _ | .valued .. => []

/-- The words that attributes list under a name, one attribute after the other. -/
def listed (list : String) (attributes : List Meta) : List Word :=
  (steeringItems attributes).flatMap (·.words list)

/-- The name a field is exposed by: the one that its attributes give it, or its own. -/
def Field.exposed (f : Field) : String := (givenName? f.attributes).getD f.name.name

/-- The row that the attributes of a field ask for, unless they ask for none. -/
def Field.rowAsked (f : Field) : Row := .ofField f.exposed f

/-- The rows that a declaration with these fields asks for. -/
def Declaration.rowsAsked (d : Declaration) (fields : List Field) : List Row :=
  (fields.filter fun f => !skips f.attributes).map Field.rowAsked ++
    ((listed "methods" d.attributes).map .ofMethod ++ (listed "getters" d.attributes).map .ofGetter)

/-! ## 2. Options -/

/-- A name that is one word is no other word. -/
theorem QualifiedName.not_is_of_is {n : QualifiedName} {a b : String} (h : n.is a = true)
    (ne : a ≠ b) : n.is b = false := by
  unfold is at h ⊢
  rw [eq_of_beq h]
  refine beq_eq_false_iff_ne.mpr fun same => ne ?_
  simpa [Word.plain] using same

namespace Options

/-- The options `o'` are `o` with the words that the items list. -/
structure Adds (o : Options) (items : List Meta) (o' : Options) : Prop where
  methods : o'.methods = o.methods ++ items.flatMap (·.words "methods")
  getters : o'.getters = o.getters ++ items.flatMap (·.words "getters")

variable {o o' o'' : Options}

theorem Adds.refl (o : Options) : o.Adds [] o := ⟨(List.append_nil _).symm, (List.append_nil _).symm⟩

theorem Adds.trans {items more : List Meta} (h : o.Adds items o') (h' : o'.Adds more o'') :
    o.Adds (items ++ more) o'' := by
  constructor
  · rw [h'.methods, h.methods, List.flatMap_append, List.append_assoc]
  · rw [h'.getters, h.getters, List.flatMap_append, List.append_assoc]

theorem adds_of_add {item : Meta} (h : o.add item = .ok o') : o.Adds [item] o' := by
  cases item with
  | valued name value => cases h
  | alone name =>
    rw [add] at h
    split at h
    · cases h
      exact ⟨(List.append_nil _).symm, (List.append_nil _).symm⟩
    · cases h
  | list name bracket arguments =>
    rw [add] at h
    cases hw : terminated readIdentifier arguments with
    | error e =>
      rw [hw] at h
      split at h
      · cases h
      · split at h <;> cases h
    | ok ws =>
      rw [hw] at h
      by_cases methods : name.is "methods" = true
      · have getters := QualifiedName.not_is_of_is methods (show "methods" ≠ "getters" by decide)
        rw [if_pos methods] at h
        cases h
        constructor <;> simp [Meta.words, methods, getters, hw, Except.toOption]
      · rw [if_neg methods] at h
        split at h
        · cases h
          constructor <;> simp [Meta.words, Except.toOption, *]
        · cases h

theorem adds_of_addAll {items : List Meta} (h : o.addAll items = .ok o') : o.Adds items o' := by
  induction items generalizing o with
  | nil =>
    cases h
    exact .refl _
  | cons item items ih =>
    rw [addAll] at h
    cases ha : o.add item with
    | error e =>
      rw [ha] at h
      cases h
    | ok next =>
      rw [ha] at h
      exact (adds_of_add ha).trans (ih h)

theorem adds_of_addAttributes {attributes : List Meta} (h : o.addAttributes attributes = .ok o') :
    o.Adds (steeringItems attributes) o' := by
  induction attributes generalizing o with
  | nil =>
    cases h
    exact .refl _
  | cons m ms ih =>
    rw [addAttributes] at h
    by_cases steers : m.steers = true
    · rw [if_pos steers] at h
      cases hm : m.items with
      | error e =>
        rw [hm] at h
        cases h
      | ok items =>
        rw [hm] at h
        dsimp only at h
        cases ha : o.addAll items with
        | error e =>
          rw [ha] at h
          cases h
        | ok next =>
          rw [ha] at h
          rw [steeringItems_cons_of_items steers hm]
          exact (adds_of_addAll ha).trans (ih h)
    · rw [if_neg steers] at h
      rw [steeringItems_cons_of_passed steers]
      exact ih h

/-- **The options of a declaration list what its attributes do**, one attribute after the other. -/
theorem lists_of_ofAttributes {attributes : List Meta} (h : ofAttributes attributes = .ok o) :
    o.methods = listed "methods" attributes ∧ o.getters = listed "getters" attributes := by
  obtain ⟨methods, getters⟩ := adds_of_addAttributes h
  exact ⟨methods, getters⟩

theorem methodRows_of_ofAttributes {attributes : List Meta} (h : ofAttributes attributes = .ok o) :
    o.methodRows = (listed "methods" attributes).map .ofMethod ++
      (listed "getters" attributes).map .ofGetter := by
  obtain ⟨methods, getters⟩ := lists_of_ofAttributes h
  rw [methodRows, methods, getters]

end Options

/-! ## 3. Rows -/

/-- A field with one attribute that steers, or none, has the row that its attributes ask for. -/
theorem Field.row?_eq_rowAsked {f : Field} {r : Option Row} (h : f.row? = .ok r)
    (one : (f.attributes.filter (·.steers)).length ≤ 1) :
    r = if skips f.attributes then none else some f.rowAsked := by
  obtain ⟨-, kept⟩ := Field.row?_eq_ok_iff.mp h
  rw [← filter_steers_of_length_le_one one, skips, givenName?, steeringItems_filter] at kept
  unfold skips
  split at kept
  · rw [if_pos ‹_›]
    exact kept
  · rw [if_neg ‹_›]
    exact kept.2

/-- **The rows of fields are those that are asked for**, when no field has two attributes that
steer. -/
theorem rowsOf_eq_rowsAsked {fields : List Field} (accepted : ∀ f ∈ fields, ∃ r, f.row? = .ok r)
    (one : ∀ f ∈ fields, (f.attributes.filter (·.steers)).length ≤ 1) :
    rowsOf fields = (fields.filter fun f => !skips f.attributes).map Field.rowAsked := by
  induction fields with
  | nil => rfl
  | cons f fields ih =>
    obtain ⟨⟨r, hr⟩, accepted⟩ := List.forall_mem_cons.mp accepted
    obtain ⟨first, one⟩ := List.forall_mem_cons.mp one
    have rest := ih accepted one
    rw [rowsOf] at rest ⊢
    rw [List.filterMap_cons, hr, Field.row?_eq_rowAsked hr first, List.filter_cons, rest]
    cases skips f.attributes <;> rfl

/-- What tells rows apart: the kind of access and the name. -/
def Row.key (r : Row) : AccessKind × String := (r.kind, r.name)

theorem nodup_keys {rows : List Row} (h : (rows.map (·.name)).Nodup) : (rows.map Row.key).Nodup := by
  refine List.Nodup.of_map Prod.snd ?_
  rw [List.map_map]
  exact h

theorem Options.kind_of_mem_methodRows (o : Options) {r : Row} (h : r ∈ o.methodRows) :
    r.kind = .method := by
  rcases List.mem_append.mp h with h | h
  · obtain ⟨w, -, rfl⟩ := List.mem_map.mp h
    rfl
  · obtain ⟨w, -, rfl⟩ := List.mem_map.mp h
    rfl

/-- The rows of fields read fields. -/
theorem kind_of_mem_rowsOf {fields : List Field} {r : Row} (h : r ∈ rowsOf fields) :
    r.kind = .field := by
  obtain ⟨f, -, hr⟩ := List.mem_filterMap.mp h
  cases hf : f.row? with
  | error e =>
    rw [hf] at hr
    cases hr
  | ok own =>
    rw [hf] at hr
    obtain rfl : own = some r := hr
    rw [(Field.eq_ofField_of_row? hf).2]
    rfl

variable {d : Declaration} {fields : List Field} {t : Table}

/-- **The rows of a declaration that is accepted are all different.** -/
theorem nodup_keys_of_derive (accepted : derive d = .ok t) : (t.rows.map Row.key).Nodup := by
  obtain ⟨_, options, rows, named, -, -, hrows, hmethods, rfl⟩ := derive_eq_ok_iff.mp accepted
  obtain ⟨-, rfl, apart, -⟩ := fieldRows_eq_ok_iff.mp hrows
  obtain ⟨apart', -⟩ := checkMethods_eq_ok_iff.mp hmethods
  rw [List.map_append]
  refine List.Nodup.append (nodup_keys apart) (nodup_keys apart') ?_
  intro key inFields inMethods
  obtain ⟨field, hfield, rfl⟩ := List.mem_map.mp inFields
  obtain ⟨method, hmethod, same⟩ := List.mem_map.mp inMethods
  have kinds : method.kind = field.kind := congrArg Prod.fst same
  rw [options.kind_of_mem_methodRows hmethod, kind_of_mem_rowsOf hfield] at kinds
  cases kinds

/-- The rows of a declaration that is accepted are those of its fields, each by itself, and those of
what its attributes list. -/
theorem rows_eq_rowsOf (accepted : derive d = .ok t) (named : d.fields = .ok fields) :
    t.rows = rowsOf fields ++ ((listed "methods" d.attributes).map .ofMethod ++
      (listed "getters" d.attributes).map .ofGetter) := by
  obtain ⟨_, options, rows, hd, -, ho, hrows, -, rfl⟩ := derive_eq_ok_iff.mp accepted
  rw [named] at hd
  cases hd
  obtain ⟨-, rfl, -⟩ := fieldRows_eq_ok_iff.mp hrows
  rw [Options.methodRows_of_ofAttributes ho]

/-- **The rows of a declaration that is accepted are those it asks for**, when no field has two
attributes that steer, and all different. -/
theorem rows_of_derive (accepted : derive d = .ok t) (named : d.fields = .ok fields)
    (one : ∀ f ∈ fields, (f.attributes.filter (·.steers)).length ≤ 1) :
    t.rows = d.rowsAsked fields ∧ (t.rows.map Row.key).Nodup := by
  obtain ⟨each, -⟩ := mem_rows_field named accepted
  refine ⟨?_, nodup_keys_of_derive accepted⟩
  rw [rows_eq_rowsOf accepted named, rowsOf_eq_rowsAsked each one, Declaration.rowsAsked]

/-! ## 4. Objects -/

/-- What stands at one place only is what is found. -/
theorem find?_of_unique {α : Type} {l : List α} {p : α → Bool} {x : α} (mem : x ∈ l)
    (holds : p x = true) (unique : ∀ y ∈ l, p y = true → y = x) : l.find? p = some x := by
  cases h : l.find? p with
  | none => exact absurd holds (List.find?_eq_none.mp h x mem)
  | some y => rw [unique y (List.mem_of_find?_eq_some h) (List.find?_some h)]

namespace Table

/-- Rows with slots of 32 bits each have a slot of their own. -/
theorem slots_eq (few : t.rows.length < 0x100000000) : t.slots = t.rows.zipIdx := by
  have same : ∀ p ∈ t.rows.zipIdx, (p.1, slotOf p.2) = p := by
    rintro ⟨r, i⟩ h
    have lt : i < t.rows.length := (List.getElem?_eq_some_iff.mp (List.mem_zipIdx_iff_getElem?.mp h)).1
    exact congrArg (Prod.mk r) (Nat.mod_eq_of_lt (Nat.lt_trans lt few))
  rw [slots]
  exact (List.map_congr_left same).trans (List.map_id _)

/-- A slot reads the member of the row with its number. -/
theorem member?_eq (few : t.rows.length < 0x100000000) (slot : Nat) :
    t.member? slot = t.rows[slot]?.map (·.member) := by
  rw [member?, slots_eq few]
  cases h : t.rows[slot]? with
  | none =>
    have missing : t.rows.zipIdx.find? (fun p => p.2 = slot) = none := by
      refine List.find?_eq_none.mpr fun p hp at' => ?_
      rw [List.mem_zipIdx_iff_getElem?, of_decide_eq_true at', h] at hp
      cases hp
    rw [missing]
    rfl
  | some r =>
    have found : t.rows.zipIdx.find? (fun p => p.2 = slot) = some (r, slot) := by
      refine find?_of_unique (List.mem_zipIdx_iff_getElem?.mpr h) (decide_eq_true rfl) ?_
      rintro ⟨r', i⟩ hp at'
      obtain rfl : i = slot := of_decide_eq_true at'
      exact congrArg (·, i) (Option.some.inj ((List.mem_zipIdx_iff_getElem?.mp hp).symm.trans h))
    rw [found]
    rfl

/-- A name resolves when a row has it. -/
theorem isSome_resolve_iff (few : t.rows.length < 0x100000000) {name : String} {kind : AccessKind} :
    (t.resolve name kind).isSome ↔ ∃ row ∈ t.rows, row.kind = kind ∧ row.name = name := by
  rw [resolve, Option.isSome_map, List.find?_isSome, slots_eq few]
  simp only [Bool.and_eq_true, decide_eq_true_eq]
  constructor
  · rintro ⟨⟨row, i⟩, h, same⟩
    exact ⟨row, List.mem_of_getElem? (List.mem_zipIdx_iff_getElem?.mp h), same⟩
  · rintro ⟨row, h, same⟩
    obtain ⟨i, h⟩ := List.mem_iff_getElem?.mp h
    exact ⟨(row, i), List.mem_zipIdx_iff_getElem?.mpr h, same⟩

/-- Among rows that are all different, the one with a kind and a name is resolved. -/
theorem resolve_row (few : t.rows.length < 0x100000000) (apart : (t.rows.map Row.key).Nodup)
    {slot : Nat} {row : Row} (h : t.rows[slot]? = some row) :
    t.resolve row.name row.kind = some ⟨row.kind, slot, row.name⟩ := by
  have found : t.rows.zipIdx.find? (fun p => p.1.kind = row.kind && p.1.name = row.name) =
      some (row, slot) := by
    refine find?_of_unique (List.mem_zipIdx_iff_getElem?.mpr h) (by simp) ?_
    rintro ⟨row', i⟩ hp same
    simp only [Bool.and_eq_true, decide_eq_true_eq] at same
    have hp := List.mem_zipIdx_iff_getElem?.mp hp
    have keys : (t.rows.map Row.key)[i]? = (t.rows.map Row.key)[slot]? := by
      rw [List.getElem?_map, List.getElem?_map, h, hp]
      exact congrArg some (Prod.ext same.1 same.2)
    have inside : i < (t.rows.map Row.key).length := by
      rw [List.length_map]
      exact (List.getElem?_eq_some_iff.mp hp).1
    obtain rfl := (List.getElem?_inj inside apart).mp keys
    exact congrArg (·, i) (Option.some.inj (hp.symm.trans h))
  rw [resolve, slots_eq few, found]
  rfl

end Table

/-- An object answers by rows that are all different: the names that it resolves are those of the
rows, each by its kind, and the number of a row is the slot that reads its member. -/
structure AnswersBy (rows : List Row) (read : MemberReader) (o : Object Value) : Prop where
  /-- A name resolves when a row has it. -/
  resolves : ∀ kind name,
    (o.resolve name kind).isSome ↔ ∃ row ∈ rows, row.kind = kind ∧ row.name = name
  /-- No two rows of one kind have one name. -/
  apart : (rows.map Row.key).Nodup
  /-- A row is resolved to its kind, its slot and its name, and its member is read there. -/
  reads : ∀ slot row, rows[slot]? = some row →
    o.resolve row.name row.kind = some ⟨row.kind, slot, row.name⟩ ∧
      ∀ a e, a.slot = slot → o.invoke a e = read row.member e
  /-- No other slot is known. -/
  unknown : ∀ a e, rows.length ≤ a.slot →
    o.invoke a e = (.error (.unknownSlot o.typeName a.slot), e)

/-- **An object of a table answers by its rows**, when they are all different and no more than there
are slots. -/
theorem Table.answersBy_object (few : t.rows.length < 0x100000000)
    (apart : (t.rows.map Row.key).Nodup) (label : String) (identity : Identity) (shown : String)
    (read : MemberReader) : AnswersBy t.rows read (t.object label identity shown read) := by
  refine ⟨fun kind name => ?_, apart, fun slot row h => ⟨?_, fun a e at' => ?_⟩, fun a e beyond => ?_⟩
  · rw [object_resolve]
    exact isSome_resolve_iff few
  · rw [object_resolve]
    exact resolve_row few apart h
  · rw [object_invoke, member?_eq few, at', h]
    rfl
  · rw [object_invoke, member?_eq few, List.getElem?_eq_none beyond]
    rfl

/-- A row that is asked for and reads a field is the one that its attributes ask for. -/
theorem Declaration.mem_rowsAsked_field {d : Declaration} {fields : List Field} {f : Field} {row : Row}
    (h : row ∈ d.rowsAsked fields) (reads : row.member = .field f) :
    skips f.attributes = false ∧ row = f.rowAsked := by
  rcases List.mem_append.mp h with h | h
  · obtain ⟨g, hg, rfl⟩ := List.mem_map.mp h
    cases reads
    exact ⟨by simpa using (List.mem_filter.mp hg).2, rfl⟩
  · -- the other rows read methods
    rcases List.mem_append.mp h with h | h <;> obtain ⟨w, -, rfl⟩ := List.mem_map.mp h <;>
      cases reads

/-- **The derived table.** From a declaration that is accepted, in which no field has two attributes
that steer and which has fewer rows than there are slots, exactly the rows are derived that it asks
for: the fields that are not left out, in order, then the methods, then the getters, as its
attributes list them one after the other; and they are numbered from zero. Every object of the type
answers by these rows, whatever its members hold. No row reads a field that is left out, and a field
that is given a name is read under no other one. -/
theorem derived_table (d : Declaration) (t : Table) (fields : List Field)
    (accepted : derive d = .ok t) (named : d.fields = .ok fields)
    (one : ∀ f ∈ fields, (f.attributes.filter (·.steers)).length ≤ 1)
    (few : t.rows.length < 0x100000000) :
    t.rows = d.rowsAsked fields ∧ t.slots = t.rows.zipIdx ∧
      (∀ label identity shown read, AnswersBy t.rows read (t.object label identity shown read)) ∧
      (∀ f ∈ fields, skips f.attributes = true → ∀ row ∈ t.rows, row.member ≠ .field f) ∧
      ∀ f ∈ fields, ∀ new, givenName? f.attributes = some new →
        ∀ row ∈ t.rows, row.member = .field f → row.name = new := by
  obtain ⟨asked, apart⟩ := rows_of_derive accepted named one
  refine ⟨asked, Table.slots_eq few, Table.answersBy_object few apart, ?_, ?_⟩
  · intro f _ hidden row hrow reads
    rw [asked] at hrow
    rw [(Declaration.mem_rowsAsked_field hrow reads).1] at hidden
    cases hidden
  · intro f _ new given row hrow reads
    rw [asked] at hrow
    rw [(Declaration.mem_rowsAsked_field hrow reads).2]
    show f.exposed = new
    rw [Field.exposed, given]
    rfl

/-- A field with a name that is a keyword, and one that is given another name. -/
def typeField : Field := ⟨⟨true, "type"⟩, [.word (.plain "String")], []⟩

def passwordField : Field := ⟨.plain "password", [.word (.plain "String")],
  [steering [.word (.plain "rename"), .sign '=' false, .string "pw" "\"pw\""]]⟩

/-- An attribute that lists one word. -/
def listing (list word : String) : Meta :=
  steering [.word (.plain list), .group .round [.word (.plain word)]]

/-- Between them a field is left out, and on two lines a getter and a method are listed. -/
def accountDeclaration : Declaration :=
  ⟨[listing "getters" "age", listing "methods" "full_name"], .plain "Account", [], [],
    .named [typeField, tokenField, passwordField]⟩

def accountTable : Table :=
  ⟨"Account", [.ofField "type" typeField, .ofField "pw" passwordField,
    .ofMethod (.plain "full_name"), .ofGetter (.plain "age")], false⟩

theorem options_accountDeclaration : Options.ofAttributes accountDeclaration.attributes =
    .ok ⟨[.plain "full_name"], [.plain "age"], false⟩ := by
  have items : ∀ list word, Meta.read [.word (.plain list), .group .round [.word (.plain word)]] =
      .ok (.list ⟨false, [.plain list]⟩ .round [.word (.plain word)], []) →
      (listing list word).items = .ok [.list ⟨false, [.plain list]⟩ .round [.word (.plain word)]] := by
    intro list word read
    rw [listing, steering, Meta.items, terminated_of_end read]
    rfl
  have words : ∀ word, (Word.plain word).isIdentifier = true →
      terminated readIdentifier [.word (.plain word)] = .ok [.plain word] := by
    intro word h
    refine terminated_of_end ?_
    rw [readIdentifier, if_pos h]
  show Options.empty.addAttributes [listing "getters" "age", listing "methods" "full_name"] = _
  rw [Options.addAttributes, items _ _ rfl]
  simp only [Options.addAttributes, items "methods" "full_name" rfl, Options.addAll, Options.add,
    words "age" rfl, words "full_name" rfl]
  rfl

theorem derive_accountDeclaration : derive accountDeclaration = .ok accountTable := by
  have type : typeField.row? = .ok (some (.ofField "type" typeField)) := rfl
  have token : tokenField.row? = .ok none := by
    rw [Field.row?, FieldOptions.ofAttributes_of_items rfl items_skip]
    rfl
  have password : passwordField.row? = .ok (some (.ofField "pw" passwordField)) := by
    rw [Field.row?, FieldOptions.ofAttributes_of_items rfl items_rename]
    rfl
  have rows : fieldRows [] [typeField, tokenField, passwordField] =
      .ok [.ofField "type" typeField, .ofField "pw" passwordField] := by
    rw [fieldRows_cons, type]
    show (fieldRows ["type"] [tokenField, passwordField]).map _ = _
    rw [fieldRows_cons, token]
    show (fieldRows ["type"] [passwordField]).map _ = _
    rw [fieldRows_cons, password]
    rfl
  exact derive_eq_ok_iff.mpr ⟨_, _, _, rfl, rfl, options_accountDeclaration, rows, rfl, rfl⟩

/-- The rows of the account, and what an account answers. -/
theorem derived_table_account :
    derive accountDeclaration = .ok accountTable ∧
    accountDeclaration.fields = .ok [typeField, tokenField, passwordField] ∧
    (∀ f ∈ [typeField, tokenField, passwordField], (f.attributes.filter (·.steers)).length ≤ 1) ∧
    accountTable.rows.length < 0x100000000 ∧
    (∀ read, AnswersBy accountTable.rows read
      (accountTable.object "Account" (.numbered 0) "an account" read)) ∧
    ∀ row ∈ accountTable.rows, row.member = .field passwordField → row.name = "pw" := by
  have one : ∀ f ∈ [typeField, tokenField, passwordField],
      (f.attributes.filter (·.steers)).length ≤ 1 := by decide
  have few : accountTable.rows.length < 0x100000000 := by decide
  have given : givenName? passwordField.attributes = some "pw" := by
    show (([steering _].flatMap fun m => m.items.toOption.getD []).filterMap _).getLast? = _
    rw [List.flatMap_cons, items_rename]
    rfl
  obtain ⟨-, -, answers, -, renamed⟩ :=
    derived_table _ _ _ derive_accountDeclaration rfl one few
  exact ⟨derive_accountDeclaration, rfl, one, few, answers _ _ _,
    renamed passwordField (by simp) "pw" given⟩

end Stencil.Derive
