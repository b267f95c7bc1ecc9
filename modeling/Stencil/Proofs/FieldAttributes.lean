import Stencil.Derive.Table

/-!
# What the attributes of a field do

* `FieldOptions.addAll_eq_ok_iff`, `FieldOptions.ofAttributes_eq_ok_iff`: what the items of an
  attribute are accepted for, and what they say together;
* `fieldRows_eq_ok_iff`, `derive_eq_ok_iff`: the rows of a declaration that is accepted are those of
  its fields, one by one, and the names are all different;
* `Declaration.Heeds`: what attributes ask of a field is done;
* `first_attribute_heeded`: the first attribute of a field is heeded, so all of them are when there
  are no two. What a second one asks is not done, and not even read (`second_attribute_unheeded`).
-/

namespace Stencil.Derive

/-! ## 1. Items -/

namespace Meta

/-- The item asks to leave the field out. -/
def isSkip : Meta → Bool
  | alone name => name.is "skip"
  | _ => false

/-- The name that the item gives the field. -/
def rename? : Meta → Option String
  | valued name (.string s) => if name.is "rename" then some s else none
  | _ => none

/-- The item means something on a field. -/
def isFieldItem (m : Meta) : Bool := m.isSkip || m.rename?.isSome

end Meta

/-- The items of those attributes that steer what is derived, as far as they can be read. -/
def steeringItems (attributes : List Meta) : List Meta :=
  (attributes.filter (·.steers)).flatMap fun m => m.items.toOption.getD []

theorem steeringItems_cons_of_passed {m : Meta} (passed : ¬ m.steers = true) (ms : List Meta) :
    steeringItems (m :: ms) = steeringItems ms := by
  rw [steeringItems, List.filter_cons_of_neg passed, steeringItems]

theorem steeringItems_cons_of_items {m : Meta} {items : List Meta} (steers : m.steers = true)
    (read : m.items = .ok items) (ms : List Meta) :
    steeringItems (m :: ms) = items ++ steeringItems ms := by
  rw [steeringItems, List.filter_cons_of_pos steers, List.flatMap_cons, read, steeringItems]
  rfl

/-- The attributes ask to leave the field out. -/
def skips (attributes : List Meta) : Bool := (steeringItems attributes).any (·.isSkip)

/-- The name that the attributes give the field; of several the last one counts. -/
def givenName? (attributes : List Meta) : Option String :=
  ((steeringItems attributes).filterMap (·.rename?)).getLast?

/-- An attribute that steers cannot be read, or has an item that means nothing on a field. -/
def Malformed (attributes : List Meta) : Prop :=
  ∃ m ∈ attributes, m.steers = true ∧ ∀ items, m.items = .ok items →
    ∃ item ∈ items, item.isFieldItem = false

/-- The attributes of a field that count: the first one that steers, if there is one. -/
def counting (attributes : List Meta) : List Meta := (attributes.find? (·.steers)).toList

/-- The last one found is found among the others, or else it is the first. -/
theorem getLast?_filterMap_cons {α β : Type} (f : α → Option β) (a : α) (as : List α) :
    ((a :: as).filterMap f).getLast? = (as.filterMap f).getLast?.or (f a) := by
  cases h : f a with
  | none => rw [List.filterMap_cons_none h, Option.or_none]
  | some b =>
    rw [List.filterMap_cons_some h, List.getLast?_cons]
    cases (as.filterMap f).getLast? <;> rfl

namespace FieldOptions

theorem add_eq_ok_iff {o o' : FieldOptions} {item : Meta} : o.add item = .ok o' ↔
    item.isFieldItem = true ∧ o' = ⟨o.skip || item.isSkip, item.rename?.or o.rename⟩ := by
  rw [@eq_comm _ o']
  cases item with
  | alone name =>
    by_cases h : name.is "skip" = true
    · simp [add, Meta.isFieldItem, Meta.isSkip, Meta.rename?, h]
    · simp [add, Meta.isFieldItem, Meta.isSkip, Meta.rename?, h]
  | list => simp [add, Meta.isFieldItem, Meta.isSkip, Meta.rename?]
  | valued name value =>
    by_cases h : name.is "rename" = true
    · cases value <;> simp [add, Meta.isFieldItem, Meta.isSkip, Meta.rename?, h]
    · cases value <;> simp [add, Meta.isFieldItem, Meta.isSkip, Meta.rename?, h]

/-- **Items are accepted when all of them mean something.** One that leaves the field out is enough,
and of several names the last one counts. -/
theorem addAll_eq_ok_iff {o o' : FieldOptions} {items : List Meta} : o.addAll items = .ok o' ↔
    (∀ item ∈ items, item.isFieldItem = true) ∧ o' = ⟨o.skip || items.any (·.isSkip),
      (items.filterMap (·.rename?)).getLast?.or o.rename⟩ := by
  induction items generalizing o with
  | nil => simp [addAll, @eq_comm _ o']
  | cons item items ih =>
    rw [addAll]
    cases ha : o.add item with
    | error e =>
      have refused : item.isFieldItem ≠ true := by
        intro good
        rw [add_eq_ok_iff.mpr ⟨good, rfl⟩] at ha
        cases ha
      simp [refused]
    | ok next =>
      obtain ⟨good, rfl⟩ := add_eq_ok_iff.mp ha
      rw [ih, getLast?_filterMap_cons, Option.or_assoc]
      simp [good, Bool.or_assoc]

theorem ofAttributes_of_items {attributes items : List Meta} {m : Meta}
    (first : attributes.find? (·.steers) = some m) (read : m.items = .ok items) :
    ofAttributes attributes = empty.addAll items := by
  rw [ofAttributes, first]
  dsimp only
  rw [read]

/-- **The options of a field are what its first attribute says**, when that means something. -/
theorem ofAttributes_eq_ok_iff {attributes : List Meta} {o : FieldOptions} :
    ofAttributes attributes = .ok o ↔ ¬ Malformed (counting attributes) ∧
      o = ⟨skips (counting attributes), givenName? (counting attributes)⟩ := by
  cases first : attributes.find? (·.steers) with
  | none =>
    rw [ofAttributes, counting, first]
    simp [Malformed, skips, givenName?, steeringItems, empty, @eq_comm _ o]
  | some m =>
    have steers : m.steers = true := List.find?_some first
    cases hm : m.items with
    | error e =>
      rw [ofAttributes, counting, first]
      simp [Malformed, steers, hm]
    | ok items =>
      rw [ofAttributes_of_items first hm, addAll_eq_ok_iff, counting, first]
      simp [Malformed, skips, givenName?, steeringItems, empty, steers, hm, Except.toOption]

end FieldOptions

/-! ## 2. Rows -/

theorem exposedName_eq_ok_iff {f : Field} {o : FieldOptions} {name : String} :
    exposedName f o = .ok name ↔ name = o.rename.getD f.name.name ∧
      ∀ given, o.rename = some given → Text.isIdentifier given.toList = true := by
  unfold exposedName
  cases o.rename with
  | none => simp [@eq_comm _ name]
  | some given =>
    by_cases h : Text.isIdentifier given.toList = true
    · simp [h, @eq_comm _ name]
    · simp [h]

/-- What becomes of a field by itself: a row, or none when it is left out. -/
def Field.row? (f : Field) : Except DeriveError (Option Row) :=
  match FieldOptions.ofAttributes f.attributes with
  | .error e => .error e
  | .ok o => if o.skip then .ok none else (exposedName f o).map fun name => some (.ofField name f)

/-- **A field is accepted for its first attribute**: left out when that says so, else exposed by the
name it gives, if a path can spell that, or by its own. -/
theorem Field.row?_eq_ok_iff {f : Field} {r : Option Row} : f.row? = .ok r ↔
    ¬ Malformed (counting f.attributes) ∧
      if skips (counting f.attributes) then r = none
      else (∀ given, givenName? (counting f.attributes) = some given →
          Text.isIdentifier given.toList = true) ∧
        r = some (.ofField ((givenName? (counting f.attributes)).getD f.name.name) f) := by
  have read : f.row? = .ok r ↔ ∃ o, FieldOptions.ofAttributes f.attributes = .ok o ∧
      if o.skip then r = none
      else ∃ name, exposedName f o = .ok name ∧ r = some (.ofField name f) := by
    rw [Field.row?]
    cases FieldOptions.ofAttributes f.attributes with
    | error e => simp
    | ok o =>
      by_cases h : o.skip = true
      · simp [h, @eq_comm _ r]
      · cases hn : exposedName f o <;> simp [h, hn, Except.map, @eq_comm _ r]
  rw [read]
  simp only [FieldOptions.ofAttributes_eq_ok_iff, exposedName_eq_ok_iff]
  constructor
  · rintro ⟨_, ⟨good, rfl⟩, rest⟩
    refine ⟨good, ?_⟩
    split at rest
    · rwa [if_pos ‹_›]
    · obtain ⟨_, ⟨rfl, spelled⟩, rfl⟩ := rest
      rw [if_neg ‹_›]
      exact ⟨spelled, rfl⟩
  · rintro ⟨good, rest⟩
    refine ⟨_, ⟨good, rfl⟩, ?_⟩
    split at rest
    · rwa [if_pos ‹_›]
    · obtain ⟨spelled, rfl⟩ := rest
      rw [if_neg ‹_›]
      exact ⟨_, ⟨rfl, spelled⟩, rfl⟩

/-- A field that has a row is not left out, and the row is its own. -/
theorem Field.eq_ofField_of_row? {f : Field} {row : Row} (h : f.row? = .ok (some row)) :
    skips (counting f.attributes) = false ∧
      row = .ofField ((givenName? (counting f.attributes)).getD f.name.name) f := by
  obtain ⟨-, kept⟩ := row?_eq_ok_iff.mp h
  split at kept
  · cases kept
  · exact ⟨Bool.eq_false_iff.mpr ‹_›, Option.some.inj kept.2⟩

/-- The rows of fields, each by itself. -/
def rowsOf (fields : List Field) : List Row := fields.filterMap fun f => f.row?.toOption.join

/-- The rows of fields, one field at a time. -/
theorem fieldRows_cons (seen : List String) (f : Field) (fields : List Field) :
    fieldRows seen (f :: fields) = match f.row? with
      | .error e => .error e
      | .ok none => fieldRows seen fields
      | .ok (some row) => if seen.contains row.name then .error (.duplicateField row.name)
          else (fieldRows (row.name :: seen) fields).map (row :: ·) := by
  rw [fieldRows, Field.row?]
  cases FieldOptions.ofAttributes f.attributes with
  | error e => rfl
  | ok o =>
    dsimp only
    by_cases h : o.skip = true
    · rw [if_pos h, if_pos h]
    · rw [if_neg h, if_neg h]
      cases exposedName f o with
      | error e => rfl
      | ok name =>
        dsimp only [Except.map, Row.ofField]
        split
        · rfl
        · cases fieldRows (name :: seen) fields <;> rfl

/-- **Fields are accepted when each of them is, with names that are new and all different**, and
their rows are those of the fields that are not left out. -/
theorem fieldRows_eq_ok_iff {seen : List String} {fields : List Field} {rows : List Row} :
    fieldRows seen fields = .ok rows ↔ (∀ f ∈ fields, ∃ r, f.row? = .ok r) ∧ rows = rowsOf fields ∧
      ((rowsOf fields).map (·.name)).Nodup ∧ ∀ r ∈ rowsOf fields, r.name ∉ seen := by
  induction fields generalizing seen rows with
  | nil => simp [fieldRows, rowsOf]
  | cons f fields ih =>
    rw [fieldRows_cons]
    cases hf : f.row? with
    | error e => simp [hf]
    | ok r =>
      cases r with
      | none =>
        have same : rowsOf (f :: fields) = rowsOf fields := by
          rw [rowsOf, List.filterMap_cons_none (by rw [hf]; rfl), rowsOf]
        rw [same]
        simp [ih, hf]
      | some row =>
        have more : rowsOf (f :: fields) = row :: rowsOf fields := by
          rw [rowsOf, List.filterMap_cons_some (by rw [hf]; rfl), rowsOf]
        rw [more]
        dsimp only
        by_cases old : row.name ∈ seen
        · simp [old]
        · rw [if_neg (by simpa using old)]
          have front : ∀ x : Except DeriveError (List Row), x.map (row :: ·) = .ok rows ↔
              ∃ rest, x = .ok rest ∧ rows = row :: rest := by
            rintro (e | rest) <;> simp [Except.map, @eq_comm _ rows]
          rw [front]
          simp only [ih, List.map_cons, List.nodup_cons, List.mem_map, List.mem_cons, not_or,
            not_exists, not_and, forall_eq_or_imp]
          constructor
          · rintro ⟨_, ⟨all, rfl, apart, fresh⟩, rfl⟩
            exact ⟨⟨⟨_, hf⟩, all⟩, rfl, ⟨fun r hr => (fresh r hr).1, apart⟩, old,
              fun r hr => (fresh r hr).2⟩
          · rintro ⟨⟨-, all⟩, rfl, ⟨other, apart⟩, -, fresh⟩
            exact ⟨_, ⟨all, rfl, apart, fun r hr => ⟨other r hr, fresh r hr⟩⟩, rfl⟩

/-- **What is accepted**: named fields without a lifetime, options that mean something, fields that
are accepted, and different names. -/
theorem derive_eq_ok_iff {d : Declaration} {t : Table} : derive d = .ok t ↔
    ∃ fields options rows, d.fields = .ok fields ∧ d.hasLifetime = false ∧
      Options.ofAttributes d.attributes = .ok options ∧ fieldRows [] fields = .ok rows ∧
      checkMethods [] options.methodRows = .ok () ∧
      t = ⟨d.name.name, rows ++ options.methodRows, options.display⟩ := by
  constructor
  · intro h
    unfold derive at h
    cases hd : d.fields with
    | error e => simp [hd] at h
    | ok fields =>
      cases hl : d.hasLifetime with
      | true => simp [hd, hl] at h
      | false =>
        cases ho : Options.ofAttributes d.attributes with
        | error e => simp [hd, hl, ho] at h
        | ok options =>
          cases hr : fieldRows [] fields with
          | error e => simp [hd, hl, ho, hr] at h
          | ok rows =>
            cases hm : checkMethods [] options.methodRows with
            | error e => simp [hd, hl, ho, hr, hm] at h
            | ok u =>
              simp only [hd, hl, ho, hr, hm, Bool.false_eq_true, if_false, Except.ok.injEq] at h
              exact ⟨fields, options, rows, rfl, rfl, rfl, hr, hm, h.symm⟩
  · rintro ⟨fields, options, rows, hd, hl, ho, hr, hm, rfl⟩
    simp [derive, hd, hl, ho, hr, hm]

/-! ## 3. Attributes of fields -/

/-- What attributes ask of a field of a declaration is done: none is passed over that is malformed,
the field has no row when they ask to leave it out, and else it is exposed by the name they give,
or by its own. -/
structure Declaration.Heeds (d : Declaration) (f : Field) (attributes : List Meta) : Prop where
  rejects : Malformed attributes → ∃ e, derive d = .error e
  hides : ∀ t, derive d = .ok t → skips attributes = true → ∀ row ∈ t.rows, row.member ≠ .field f
  exposes : ∀ t, derive d = .ok t → skips attributes = false →
    .ofField ((givenName? attributes).getD f.name.name) f ∈ t.rows ∧
      ∀ row ∈ t.rows, row.member = .field f → row.name = (givenName? attributes).getD f.name.name

variable {d : Declaration} {fields : List Field} {f : Field}

/-- Where a declaration is accepted, its rows with a field are those of the fields. -/
theorem mem_rows_field {t : Table} (named : d.fields = .ok fields) (accepted : derive d = .ok t) :
    (∀ g ∈ fields, ∃ r, g.row? = .ok r) ∧
      ∀ row, row.kind = .field → (row ∈ t.rows ↔ ∃ g ∈ fields, g.row? = .ok (some row)) := by
  obtain ⟨_, options, rows, hd, -, -, hrows, -, rfl⟩ := derive_eq_ok_iff.mp accepted
  rw [named] at hd
  cases hd
  obtain ⟨all, rfl, -, -⟩ := fieldRows_eq_ok_iff.mp hrows
  refine ⟨all, fun row isField => ?_⟩
  have method : row ∉ options.methodRows := by
    intro h
    rcases List.mem_append.mp h with h | h <;> obtain ⟨w, -, rfl⟩ := List.mem_map.mp h <;>
      cases isField
  rw [List.mem_append, or_iff_left method, rowsOf, List.mem_filterMap]
  refine exists_congr fun g => and_congr_right fun hg => ?_
  obtain ⟨r, hr⟩ := all g hg
  rw [hr]
  simp [Except.toOption]

/-- **The first attribute of a field is heeded.** -/
theorem Declaration.heeds_counting (named : d.fields = .ok fields) (mem : f ∈ fields) :
    d.Heeds f (counting f.attributes) := by
  -- a row with the field is the row that the field has by itself
  have own : ∀ t row, derive d = .ok t → row ∈ t.rows → row.member = .field f →
      f.row? = .ok (some row) := by
    intro t row accepted hr reads
    obtain ⟨g, -, hg⟩ :=
      ((mem_rows_field named accepted).2 row (congrArg Member.kind reads)).mp hr
    obtain ⟨-, rfl⟩ := Field.eq_ofField_of_row? hg
    cases reads
    exact hg
  refine ⟨fun malformed => ?_, fun t accepted skip row hr reads => ?_, fun t accepted skip => ⟨?_, ?_⟩⟩
  · cases accepted : derive d with
    | error e => exact ⟨e, rfl⟩
    | ok t =>
      obtain ⟨r, hr⟩ := (mem_rows_field named accepted).1 f mem
      exact absurd malformed (Field.row?_eq_ok_iff.mp hr).1
  · have kept := (Field.eq_ofField_of_row? (own t row accepted hr reads)).1
    rw [skip] at kept
    cases kept
  · obtain ⟨all, rows⟩ := mem_rows_field named accepted
    obtain ⟨r, hr⟩ := all f mem
    obtain ⟨-, kept⟩ := Field.row?_eq_ok_iff.mp hr
    rw [if_neg (by simp [skip])] at kept
    obtain ⟨-, rfl⟩ := kept
    exact (rows _ rfl).mpr ⟨f, mem, hr⟩
  · intro row hr reads
    rw [(Field.eq_ofField_of_row? (own t row accepted hr reads)).2]
    rfl

/-- The attributes that do not steer are passed over. -/
theorem filter_steers_of_length_le_one {attributes : List Meta}
    (one : (attributes.filter (·.steers)).length ≤ 1) :
    attributes.filter (·.steers) = counting attributes := by
  rw [counting, ← List.head?_filter]
  generalize attributes.filter (·.steers) = steering at one
  cases steering with
  | nil => rfl
  | cons m others =>
    cases others with
    | nil => rfl
    | cons m' others => simp at one

theorem steeringItems_filter (attributes : List Meta) :
    steeringItems (attributes.filter (·.steers)) = steeringItems attributes := by
  rw [steeringItems, List.filter_filter, steeringItems]
  simp only [Bool.and_self]

theorem malformed_filter {attributes : List Meta} :
    Malformed (attributes.filter (·.steers)) ↔ Malformed attributes := by
  simp only [Malformed, List.mem_filter, and_assoc, and_self_left]

/-- What is asked is asked by the attributes that steer. -/
theorem Declaration.Heeds.of_filter {attributes : List Meta}
    (h : d.Heeds f (attributes.filter (·.steers))) : d.Heeds f attributes := by
  have skipping : skips (attributes.filter (·.steers)) = skips attributes := by
    rw [skips, steeringItems_filter, skips]
  have naming : givenName? (attributes.filter (·.steers)) = givenName? attributes := by
    rw [givenName?, steeringItems_filter, givenName?]
  obtain ⟨rejects, hides, exposes⟩ := h
  rw [skipping] at hides exposes
  rw [naming] at exposes
  exact ⟨fun malformed => rejects (malformed_filter.mpr malformed), hides, exposes⟩

/-- **What the first attribute of a field asks is done**: a malformed one is refused, the field is
left out or exposed as it says. So what all attributes of a field ask is done where no two of them
steer, whatever other attributes stand between. -/
theorem first_attribute_heeded (d : Declaration) (fields : List Field)
    (named : d.fields = .ok fields) (f : Field) (mem : f ∈ fields) :
    d.Heeds f (counting f.attributes) ∧
      ((f.attributes.filter (·.steers)).length ≤ 1 → d.Heeds f f.attributes) := by
  have heeds := Declaration.heeds_counting named mem
  refine ⟨heeds, fun one => .of_filter ?_⟩
  rw [filter_steers_of_length_le_one one]
  exact heeds

/-- An attribute that steers, with these arguments. -/
def steering (arguments : List Tree) : Meta := .list ⟨false, [.plain "introspect"]⟩ .round arguments

/-- A field that is given a name, and on a second line is to be left out. -/
def secretField : Field := ⟨.plain "password", [.word (.plain "String")],
  [steering [.word (.plain "rename"), .sign '=' false, .string "pw" "\"pw\""],
    steering [.word (.plain "skip")]]⟩

/-- A field that is left out, on one line among another attribute. -/
def tokenField : Field := ⟨.plain "token", [.word (.plain "String")],
  [.alone ⟨false, [.plain "deprecated"]⟩, steering [.word (.plain "skip")]]⟩

def secretDeclaration : Declaration :=
  ⟨[], .plain "S", [], [], .named [secretField, tokenField]⟩

theorem first_attribute_heeded_secret :
    secretDeclaration.fields = .ok [secretField, tokenField] ∧
      secretDeclaration.Heeds secretField (counting secretField.attributes) ∧
      (tokenField.attributes.filter (·.steers)).length ≤ 1 ∧
      secretDeclaration.Heeds tokenField tokenField.attributes := by
  have one : (tokenField.attributes.filter (·.steers)).length ≤ 1 := by decide
  exact ⟨rfl, (first_attribute_heeded _ _ rfl secretField List.mem_cons_self).1, one,
    (first_attribute_heeded _ _ rfl tokenField (List.mem_cons_of_mem _ List.mem_cons_self)).2 one⟩

theorem items_rename : (steering [.word (.plain "rename"), .sign '=' false,
    .string "pw" "\"pw\""]).items = .ok [.valued ⟨false, [.plain "rename"]⟩ (.string "pw")] := by
  have item : Meta.read [.word (.plain "rename"), .sign '=' false, .string "pw" "\"pw\""] =
      .ok (.valued ⟨false, [.plain "rename"]⟩ (.string "pw"), []) := by rfl
  rw [steering, Meta.items, terminated_of_end item]
  rfl

theorem items_skip : (steering [.word (.plain "skip")]).items =
    .ok [.alone ⟨false, [.plain "skip"]⟩] := by
  have item : Meta.read [.word (.plain "skip")] =
      .ok (.alone ⟨false, [.plain "skip"]⟩, []) := by rfl
  rw [steering, Meta.items, terminated_of_end item]
  rfl

/-- The secret field has a row, and the token has none. -/
theorem derive_secretDeclaration :
    derive secretDeclaration = .ok ⟨"S", [.ofField "pw" secretField], false⟩ := by
  have secret : secretField.row? = .ok (some (.ofField "pw" secretField)) := by
    rw [Field.row?, FieldOptions.ofAttributes_of_items rfl items_rename]
    rfl
  have token : tokenField.row? = .ok none := by
    rw [Field.row?, FieldOptions.ofAttributes_of_items rfl items_skip]
    rfl
  have rows : fieldRows [] [secretField, tokenField] = .ok [.ofField "pw" secretField] := by
    rw [fieldRows_cons, secret]
    show (fieldRows ["pw"] [tokenField]).map _ = _
    rw [fieldRows_cons, token]
    rfl
  exact derive_eq_ok_iff.mpr ⟨_, .empty, _, rfl, rfl, rfl, rows, rfl, rfl⟩

/-- **A second attribute is passed over**: a field that it is to hide can still be read. -/
theorem second_attribute_unheeded : ¬ ∀ (d : Declaration) (fields : List Field),
    d.fields = .ok fields → ∀ f ∈ fields, d.Heeds f f.attributes := by
  intro all
  have heeds := all secretDeclaration [secretField, tokenField] rfl secretField List.mem_cons_self
  have asked : skips secretField.attributes = true := by
    show (([steering _, steering _].flatMap fun m => m.items.toOption.getD []).any _) = true
    rw [List.flatMap_cons, List.flatMap_cons, items_rename, items_skip]
    rfl
  exact heeds.hides _ derive_secretDeclaration asked _ List.mem_cons_self rfl

end Stencil.Derive
