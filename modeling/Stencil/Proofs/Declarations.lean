import Stencil.Proofs.AttributeGrammar
import Mathlib.Data.List.Perm.Basic
import Mathlib.Data.List.ReduceOption

/-!
# The declarations that are accepted

A declaration is well-formed for reasons that can be told from its parts: it has named fields and no
lifetime, its attributes are lists of items of the grammar, and what it exposes has names that are all
different, fields apart from methods.

* `Field.ExposedBy`, `Declaration.WellFormed`: what a field is exposed by, and what is well-formed, for
  a kind of brackets that lists may stand in;
* `exists_fieldRows_iff`, `exists_options_iff`: fields and attributes are accepted just when they are of
  the grammar and the names they expose are all different;
* `accepted_iff_wellFormed`: and so are declarations, with brackets of any kind. Not with round ones
  alone (`square_brackets_accepted`).
-/

namespace Stencil.Derive

/-! ## 1. Well-formed declarations -/

/-- The name that an item gives the field. -/
def FieldItem.name? : FieldItem → Option String
  | skip => none
  | rename name => some name

/-- What a field is exposed by: nothing when its attribute leaves it out, whatever names it gives
besides; else the last name that the attribute gives, which a path must be able to spell, or its own. -/
inductive Field.ExposedBy (kind : Bracket → Prop) (f : Field) : Option String → Prop where
  | left {items : List FieldItem} (asked : Steered kind FieldItemText f.attributes items)
      (out : .skip ∈ items) : ExposedBy kind f none
  | own {items : List FieldItem} (asked : Steered kind FieldItemText f.attributes items)
      (kept : .skip ∉ items) (unnamed : items.filterMap FieldItem.name? = []) :
      ExposedBy kind f (some f.name.name)
  | given {items : List FieldItem} {name : String}
      (asked : Steered kind FieldItemText f.attributes items) (kept : .skip ∉ items)
      (last : (items.filterMap FieldItem.name?).getLast? = some name)
      (spelled : Text.isIdentifier name.toList = true) : ExposedBy kind f (some name)

/-- The names that an item exposes methods by. -/
def OptionItem.names : OptionItem → List String
  | display => []
  | methods ws => ws.map (·.name)
  | getters ws => ws.map getterName

/-- A declaration of named fields without a lifetime, all of whose attributes that steer are lists of
items that mean something. The names of its fields are all different, and so are those of its methods
and getters; a field and a method may have one name. -/
inductive Declaration.WellFormed (kind : Bracket → Prop) (d : Declaration) : Prop where
  | intro {fields : List Field} {names : List (Option String)} {options : List OptionItem}
      (named : d.body = .named fields) (owned : ∀ name, .lifetime name ∉ d.parameters)
      (asked : Steered kind (OptionItemText kind) d.attributes options)
      (exposed : List.Forall₂ (Field.ExposedBy kind) fields names)
      (fieldsApart : names.reduceOption.Nodup)
      (methodsApart : (options.flatMap OptionItem.names).Nodup) : d.WellFormed kind

/-! ## 2. Fields -/

theorem Meta.isSkip_iff {m : Meta} : m.isSkip = true ↔ m.fieldItem? = some .skip := by
  cases m with
  | alone name => simp [isSkip, fieldItem?]
  | list => simp [isSkip, fieldItem?]
  | valued name value => cases value <;> simp [isSkip, fieldItem?]

theorem Meta.rename?_eq (m : Meta) : m.rename? = m.fieldItem?.bind FieldItem.name? := by
  cases m with
  | alone name => cases h : name.is "skip" <;> simp [rename?, fieldItem?, FieldItem.name?, h]
  | list => rfl
  | valued name value =>
    cases value with
    | expression => rfl
    | string s => cases h : name.is "rename" <;> simp [rename?, fieldItem?, FieldItem.name?, h]

theorem Meta.isFieldItem_eq (m : Meta) : m.isFieldItem = m.fieldItem?.isSome := by
  rw [isFieldItem, Bool.eq_iff_iff, Bool.or_eq_true, isSkip_iff, rename?_eq]
  cases m.fieldItem? with
  | none => simp
  | some item => cases item <;> simp [FieldItem.name?]

/-- What the attributes of a field ask for, item by item. -/
def fieldItems (attributes : List Meta) : List FieldItem :=
  (steeringItems attributes).filterMap Meta.fieldItem?

theorem steered_fieldItem_iff {attributes : List Meta} {items : List FieldItem} :
    Steered anyBracket FieldItemText attributes items ↔
      Meaningful Meta.fieldItem? attributes ∧ items = fieldItems attributes :=
  steered_iff accepts_fieldItem

theorem skips_iff {attributes : List Meta} : skips attributes = true ↔ .skip ∈ fieldItems attributes := by
  simp only [skips, fieldItems, List.any_eq_true, List.mem_filterMap, Meta.isSkip_iff]

theorem givenName?_eq (attributes : List Meta) :
    givenName? attributes = ((fieldItems attributes).filterMap FieldItem.name?).getLast? := by
  rw [givenName?, fieldItems, List.filterMap_filterMap]
  exact congrArg (List.getLast? ∘ (List.filterMap · _)) (funext Meta.rename?_eq)

theorem not_malformed_iff {attributes : List Meta} :
    ¬ Malformed attributes ↔ Meaningful Meta.fieldItem? attributes := by
  simp only [Malformed, Meaningful, Meta.isFieldItem_eq]
  push Not
  simp only [ne_eq, Bool.not_eq_false]

/-- A field with one attribute that steers, or none, is accepted for what all its attributes ask. -/
theorem Field.row?_eq_ok_iff_of_one {f : Field} {r : Option Row}
    (one : (f.attributes.filter (·.steers)).length ≤ 1) : f.row? = .ok r ↔
      Meaningful Meta.fieldItem? f.attributes ∧
        if .skip ∈ fieldItems f.attributes then r = none
        else (∀ given, givenName? f.attributes = some given →
            Text.isIdentifier given.toList = true) ∧
          r = some (.ofField ((givenName? f.attributes).getD f.name.name) f) := by
  have naming : givenName? (f.attributes.filter (·.steers)) = givenName? f.attributes := by
    rw [givenName?, steeringItems_filter, givenName?]
  have skipping : fieldItems (f.attributes.filter (·.steers)) = fieldItems f.attributes := by
    rw [fieldItems, steeringItems_filter, fieldItems]
  rw [Field.row?_eq_ok_iff, ← filter_steers_of_length_le_one one, malformed_filter, not_malformed_iff,
    naming]
  simp only [skips_iff, skipping]

/-- **A field is accepted just when its attributes are of the grammar**, and its row is the one for the
name that they expose it by. -/
theorem Field.row?_eq_ok_iff_exposedBy {f : Field} {r : Option Row}
    (one : (f.attributes.filter (·.steers)).length ≤ 1) : f.row? = .ok r ↔
      ∃ name, f.ExposedBy anyBracket name ∧ r = name.map (Row.ofField · f) := by
  rw [Field.row?_eq_ok_iff_of_one one, givenName?_eq]
  constructor
  · intro accepted
    obtain ⟨meaningful, kept⟩ := accepted
    have asked := steered_fieldItem_iff.mpr ⟨meaningful, rfl⟩
    split at kept
    · next out => exact ⟨none, .left asked out, kept⟩
    · next stays =>
      obtain ⟨spelled, rfl⟩ := kept
      cases last : ((fieldItems f.attributes).filterMap FieldItem.name?).getLast? with
      | none => exact ⟨_, .own asked stays (List.getLast?_eq_none_iff.mp last), rfl⟩
      | some given => exact ⟨_, .given asked stays last (spelled given last), rfl⟩
  · intro exposed
    obtain ⟨name, exposed, rfl⟩ := exposed
    cases exposed with
    | left asked out =>
      obtain ⟨meaningful, rfl⟩ := steered_fieldItem_iff.mp asked
      rw [if_pos out]
      exact ⟨meaningful, rfl⟩
    | own asked kept unnamed =>
      obtain ⟨meaningful, rfl⟩ := steered_fieldItem_iff.mp asked
      rw [if_neg kept, unnamed]
      exact ⟨meaningful, nofun, rfl⟩
    | @given _ name asked kept last spelled =>
      obtain ⟨meaningful, rfl⟩ := steered_fieldItem_iff.mp asked
      rw [if_neg kept, last]
      refine ⟨meaningful, fun given same => ?_, rfl⟩
      cases same
      exact spelled

/-- The rows of fields have the names that the fields are exposed by. -/
theorem names_rowsOf {fields : List Field} {names : List (Option String)}
    (one : ∀ f ∈ fields, (f.attributes.filter (·.steers)).length ≤ 1)
    (exposed : List.Forall₂ (Field.ExposedBy anyBracket) fields names) :
    (∀ f ∈ fields, ∃ r, f.row? = .ok r) ∧ (rowsOf fields).map (·.name) = names.reduceOption := by
  induction exposed with
  | nil => exact ⟨nofun, rfl⟩
  | @cons f name fields names first _ ih =>
    obtain ⟨one, others⟩ := List.forall_mem_cons.mp one
    obtain ⟨accepted, same⟩ := ih others
    have row := (Field.row?_eq_ok_iff_exposedBy one).mpr ⟨name, first, rfl⟩
    refine ⟨List.forall_mem_cons.mpr ⟨⟨_, row⟩, accepted⟩, ?_⟩
    rw [rowsOf] at same ⊢
    rw [List.filterMap_cons, row]
    cases name with
    | none => exact same
    | some name =>
      rw [List.reduceOption_cons_of_some, ← same]
      rfl

/-- Fields that are accepted are exposed by something. -/
theorem exists_exposedBy {fields : List Field}
    (one : ∀ f ∈ fields, (f.attributes.filter (·.steers)).length ≤ 1)
    (accepted : ∀ f ∈ fields, ∃ r, f.row? = .ok r) :
    ∃ names, List.Forall₂ (Field.ExposedBy anyBracket) fields names := by
  induction fields with
  | nil => exact ⟨[], .nil⟩
  | cons f fields ih =>
    obtain ⟨one, others⟩ := List.forall_mem_cons.mp one
    obtain ⟨⟨r, first⟩, rest⟩ := List.forall_mem_cons.mp accepted
    obtain ⟨name, exposed, -⟩ := (Field.row?_eq_ok_iff_exposedBy one).mp first
    obtain ⟨names, rest⟩ := ih others rest
    exact ⟨name :: names, .cons exposed rest⟩

/-- **The fields of a declaration are accepted just when their attributes are of the grammar** and the
names they are exposed by are all different. -/
theorem exists_fieldRows_iff {fields : List Field}
    (one : ∀ f ∈ fields, (f.attributes.filter (·.steers)).length ≤ 1) :
    (∃ rows, fieldRows [] fields = .ok rows) ↔
      ∃ names, List.Forall₂ (Field.ExposedBy anyBracket) fields names ∧ names.reduceOption.Nodup := by
  constructor
  · intro accepted
    obtain ⟨rows, hrows⟩ := accepted
    obtain ⟨each, -, apart, -⟩ := fieldRows_eq_ok_iff.mp hrows
    obtain ⟨names, exposed⟩ := exists_exposedBy one each
    rw [(names_rowsOf one exposed).2] at apart
    exact ⟨names, exposed, apart⟩
  · intro wellFormed
    obtain ⟨names, exposed, apart⟩ := wellFormed
    obtain ⟨each, same⟩ := names_rowsOf one exposed
    rw [← same] at apart
    exact ⟨_, fieldRows_eq_ok_iff.mpr ⟨each, rfl, apart, fun _ _ => List.not_mem_nil⟩⟩

/-! ## 3. Attributes of declarations -/

namespace Options

theorem exists_add_iff {o : Options} {item : Meta} :
    (∃ o', o.add item = .ok o') ↔ item.optionItem?.isSome = true := by
  cases item with
  | alone name => cases h : name.is "display" <;> simp [add, Meta.optionItem?, h]
  | valued => simp [add, Meta.optionItem?]
  | list name b ts =>
    cases hw : terminated readIdentifier ts <;> cases hm : name.is "methods" <;>
      cases hg : name.is "getters" <;>
      simp [add, Meta.optionItem?, Except.toOption, hw, hm, hg]

theorem exists_addAll_iff {o : Options} {items : List Meta} :
    (∃ o', o.addAll items = .ok o') ↔ ∀ item ∈ items, item.optionItem?.isSome = true := by
  induction items generalizing o with
  | nil => simp [addAll]
  | cons item items ih =>
    rw [List.forall_mem_cons, ← @exists_add_iff o, addAll]
    cases ha : o.add item with
    | error e => simp
    | ok next => simpa using @ih next

/-- **The attributes of a declaration are accepted when they mean something.** -/
theorem exists_addAttributes_iff {o : Options} {attributes : List Meta} :
    (∃ o', o.addAttributes attributes = .ok o') ↔ Meaningful Meta.optionItem? attributes := by
  induction attributes generalizing o with
  | nil => simp [addAttributes, Meaningful]
  | cons m ms ih =>
    rw [Meaningful, List.forall_mem_cons, ← Meaningful, addAttributes]
    by_cases steers : m.steers = true
    · rw [if_pos steers]
      cases hm : m.items with
      | error e => simp [steers]
      | ok items =>
        have first := @exists_addAll_iff o items
        dsimp only
        cases ha : o.addAll items with
        | error e =>
          rw [ha] at first
          simp only [reduceCtorEq, exists_false, false_iff] at first
          simp [steers, first]
        | ok next =>
          rw [ha] at first
          simp only [Except.ok.injEq, exists_eq', true_iff] at first
          simp only [steers, forall_const, Except.ok.injEq, exists_eq_left', and_iff_right first, ih]
    · rw [if_neg steers, ih]
      simp [steers]

end Options

/-- What the attributes of a declaration ask for, item by item. -/
def optionItems (attributes : List Meta) : List OptionItem :=
  (steeringItems attributes).filterMap Meta.optionItem?

theorem steered_optionItem_iff {attributes : List Meta} {options : List OptionItem} :
    Steered anyBracket (OptionItemText anyBracket) attributes options ↔
      Meaningful Meta.optionItem? attributes ∧ options = optionItems attributes :=
  steered_iff accepts_optionItem

/-- An item that means something exposes the words that it lists. -/
theorem names_optionItem? (item : Meta) : (item.optionItem?.map OptionItem.names).getD [] =
    (item.words "methods").map (·.name) ++ (item.words "getters").map getterName := by
  cases item with
  | alone name => cases h : name.is "display" <;> simp [Meta.optionItem?, Meta.words, OptionItem.names, h]
  | valued => rfl
  | list name b ts =>
    by_cases methods : name.is "methods" = true
    · have getters := QualifiedName.not_is_of_is methods (show "methods" ≠ "getters" by decide)
      cases hw : terminated readIdentifier ts <;>
        simp [Meta.optionItem?, Meta.words, OptionItem.names, Except.toOption, methods, getters, hw]
    · cases hw : terminated readIdentifier ts <;> cases hg : name.is "getters" <;>
        simp [Meta.optionItem?, Meta.words, OptionItem.names, Except.toOption, methods, hg, hw]

/-- What stands for the members of a list that mean something, one after the other. -/
theorem flatMap_filterMap {α β γ : Type} (f : α → Option β) (g : β → List γ) (as : List α) :
    (as.filterMap f).flatMap g = as.flatMap fun a => ((f a).map g).getD [] := by
  induction as with
  | nil => rfl
  | cons a as ih =>
    rw [List.flatMap_cons, ← ih]
    cases h : f a with
    | none =>
      rw [List.filterMap_cons_none h]
      rfl
    | some b =>
      rw [List.filterMap_cons_some h, List.flatMap_cons]
      rfl

/-- The names that items expose methods by are those of the rows, in another order. -/
theorem names_optionItems {attributes : List Meta} {o : Options}
    (h : Options.ofAttributes attributes = .ok o) :
    (o.methodRows.map (·.name)).Perm ((optionItems attributes).flatMap OptionItem.names) := by
  rw [optionItems, flatMap_filterMap, Options.methodRows_of_ofAttributes h, listed, listed]
  simp only [names_optionItem?, List.map_append, List.map_map, List.map_flatMap]
  exact List.flatMap_append_perm _ _ _

/-- **The attributes of a declaration are accepted just when they are of the grammar**, and the rows
just when the names they expose methods by are all different. -/
theorem exists_options_iff {attributes : List Meta} :
    (∃ o, Options.ofAttributes attributes = .ok o ∧ checkMethods [] o.methodRows = .ok ()) ↔
      ∃ options, Steered anyBracket (OptionItemText anyBracket) attributes options ∧
        (options.flatMap OptionItem.names).Nodup := by
  constructor
  · intro accepted
    obtain ⟨o, ho, checked⟩ := accepted
    have meaningful := Options.exists_addAttributes_iff.mp ⟨o, ho⟩
    obtain ⟨apart, -⟩ := checkMethods_eq_ok_iff.mp checked
    exact ⟨_, steered_optionItem_iff.mpr ⟨meaningful, rfl⟩, (names_optionItems ho).nodup_iff.mp apart⟩
  · intro wellFormed
    obtain ⟨options, asked, apart⟩ := wellFormed
    obtain ⟨meaningful, rfl⟩ := steered_optionItem_iff.mp asked
    obtain ⟨o, ho⟩ := Options.exists_addAttributes_iff.mpr meaningful
    have apart := (names_optionItems ho).nodup_iff.mpr apart
    exact ⟨o, ho, checkMethods_eq_ok_iff.mpr ⟨apart, fun _ _ => List.not_mem_nil⟩⟩

/-! ## 4. Declarations -/

theorem Declaration.fields_eq_ok_iff {d : Declaration} {fields : List Field} :
    d.fields = .ok fields ↔ d.body = .named fields := by
  rw [Declaration.fields]
  cases d.body <;> simp

theorem Declaration.hasLifetime_eq_false_iff {d : Declaration} :
    d.hasLifetime = false ↔ ∀ name, .lifetime name ∉ d.parameters := by
  rw [hasLifetime, List.any_eq_false]
  constructor
  · intro all name mem
    exact all _ mem rfl
  · intro all p mem isLifetime
    cases p with
    | lifetime name => exact all name mem
    | type | const => cases isLifetime

/-- **The declarations that are accepted are the well-formed ones.** Let no field of a declaration have
two attributes that steer. Then a table is derived from it if and only if it has named fields and no
lifetime; its attributes that steer are lists of `display`, and of `methods` and `getters` with lists
of identifiers; those of its fields are lists of `skip`, and of `rename` with a text, the last of which
a path can spell unless the field is left out; the names that its fields are exposed by are all
different, and so are those of its methods and getters together. All these lists may stand in brackets
of any kind. -/
theorem accepted_iff_wellFormed (d : Declaration)
    (one : ∀ fields, d.body = .named fields → ∀ f ∈ fields,
      (f.attributes.filter (·.steers)).length ≤ 1) :
    (∃ t, derive d = .ok t) ↔ d.WellFormed anyBracket := by
  constructor
  · intro accepted
    obtain ⟨t, accepted⟩ := accepted
    obtain ⟨fields, options, rows, named, owned, ho, hrows, checked, -⟩ := derive_eq_ok_iff.mp accepted
    have named := Declaration.fields_eq_ok_iff.mp named
    obtain ⟨names, exposed, fieldsApart⟩ := (exists_fieldRows_iff (one fields named)).mp ⟨rows, hrows⟩
    obtain ⟨options, asked, methodsApart⟩ := exists_options_iff.mp ⟨options, ho, checked⟩
    exact ⟨named, Declaration.hasLifetime_eq_false_iff.mp owned, asked, exposed, fieldsApart,
      methodsApart⟩
  · intro wellFormed
    obtain ⟨named, owned, asked, exposed, fieldsApart, methodsApart⟩ := wellFormed
    obtain ⟨rows, hrows⟩ := (exists_fieldRows_iff (one _ named)).mpr ⟨_, exposed, fieldsApart⟩
    obtain ⟨options, ho, checked⟩ := exists_options_iff.mpr ⟨_, asked, methodsApart⟩
    exact ⟨_, derive_eq_ok_iff.mpr ⟨_, options, rows, Declaration.fields_eq_ok_iff.mpr named,
      Declaration.hasLifetime_eq_false_iff.mpr owned, ho, hrows, checked, rfl⟩⟩

/-- A field, and one that is left out and has a name that no path can spell. -/
def nameField : Field := ⟨.plain "name", [.word (.plain "String")], []⟩

def hiddenField : Field := ⟨.plain "hidden", [.word (.plain "String")],
  [steering [.word (.plain "skip"), .sign ',' false, .word (.plain "rename"), .sign '=' false,
    .string "no name" "\"no name\""]]⟩

/-- Its method has the name of the field. -/
def labelDeclaration : Declaration :=
  ⟨[listing "methods" "name"], .plain "Label", [], [], .named [nameField, hiddenField]⟩

theorem wellFormed_labelDeclaration : labelDeclaration.WellFormed anyBracket := by
  have options : Steered anyBracket (OptionItemText anyBracket) labelDeclaration.attributes
      [.methods [.plain "name"]] :=
    .line rfl trivial (.last (.methods trivial (.last (.intro rfl)))) .nil
  have items : Commas FieldItemText ([.word (.plain "skip")] ++ .sign ',' false ::
      [.word (.plain "rename"), .sign '=' false, .string "no name" "\"no name\""])
      [.skip, .rename "no name"] := .more .skip (.last .rename)
  have hidden : Steered anyBracket FieldItemText hiddenField.attributes [.skip, .rename "no name"] :=
    .line rfl trivial items .nil
  exact ⟨rfl, nofun, options, .cons (.own .nil nofun rfl) (.cons (.left hidden List.mem_cons_self) .nil),
    List.nodup_singleton _, List.nodup_singleton _⟩

theorem accepted_iff_wellFormed_label :
    (∀ fields, labelDeclaration.body = .named fields → ∀ f ∈ fields,
      (f.attributes.filter (·.steers)).length ≤ 1) ∧
    ∃ t, derive labelDeclaration = .ok t := by
  have one : ∀ fields, labelDeclaration.body = .named fields → ∀ f ∈ fields,
      (f.attributes.filter (·.steers)).length ≤ 1 := by
    intro fields named
    cases named
    decide
  exact ⟨one, (accepted_iff_wellFormed labelDeclaration one).mpr wellFormed_labelDeclaration⟩

/-- An attribute in square brackets. -/
def boxDeclaration : Declaration :=
  ⟨[.list ⟨false, [.plain "introspect"]⟩ .square [.word (.plain "display")]], .plain "Box", [], [],
    .named [nameField]⟩

/-- **Not only round brackets are accepted.** -/
theorem square_brackets_accepted : ¬ ∀ d : Declaration,
    (∀ fields, d.body = .named fields → ∀ f ∈ fields, (f.attributes.filter (·.steers)).length ≤ 1) →
      ((∃ t, derive d = .ok t) ↔ d.WellFormed (· = .round)) := by
  intro all
  have one : ∀ fields, boxDeclaration.body = .named fields → ∀ f ∈ fields,
      (f.attributes.filter (·.steers)).length ≤ 1 := by
    intro fields named
    cases named
    decide
  have asked : Steered anyBracket (OptionItemText anyBracket) boxDeclaration.attributes [.display] :=
    .line rfl trivial (.last .display) .nil
  obtain ⟨options, ho, checked⟩ := exists_options_iff.mpr ⟨_, asked, List.nodup_nil⟩
  have accepted : derive boxDeclaration = .ok ⟨"Box", .ofField "name" nameField :: options.methodRows,
      options.display⟩ :=
    derive_eq_ok_iff.mpr ⟨[nameField], options, [_], rfl, rfl, ho, rfl, checked, rfl⟩
  obtain ⟨-, -, asked, -⟩ := (all boxDeclaration one).mp ⟨_, accepted⟩
  cases asked with
  | other passed _ => cases passed
  | line _ bracket _ _ => cases bracket

end Stencil.Derive
