import Stencil.Proofs.DerivedTable

/-!
# The grammar of attributes

What an attribute may say, as rows of token trees: items divided by commas, with or without one behind
the last. On a field an item is `skip` or `rename` with a text; on a declaration it is `display`, or
`methods` or `getters` with a list of identifiers in brackets.

* `Commas`: the lists of a grammar of items; `Steered`: the attributes that steer are such lists;
* `Reader.Accepts`: a reader of items and a grammar agree on the items that mean something. Then they
  agree on whole lists (`terminated_iff_commas`) and on whole rows of attributes (`steered_iff`);
* `accepts_fieldItem`, `accepts_optionItem`: so it is with the items of fields and of declarations.
-/

namespace Stencil.Derive

/-! ## 1. Lists -/

/-- Items divided by commas, with or without one behind the last. -/
inductive Commas {β : Type} (text : List Tree → β → Prop) : List Tree → List β → Prop where
  | nil : Commas text [] []
  | last {ts : List Tree} {b : β} (item : text ts b) : Commas text ts [b]
  | more {ts rest : List Tree} {b : β} {bs : List β} {joint : Bool} (item : text ts b)
      (others : Commas text rest bs) : Commas text (ts ++ .sign ',' joint :: rest) (b :: bs)

/-- A reader of items and a grammar of them agree, in front of the end or a comma, on the items that
mean something: what the grammar has is read to the end of it, and what is read and means something is
of the grammar. -/
structure Reader.Accepts {α β : Type} (read : List Tree → Reads α) (means : α → Option β)
    (text : List Tree → β → Prop) : Prop where
  filled : ∀ {ts b}, text ts b → ts ≠ []
  reads : ∀ {ts b rest}, text ts b → endsItem rest = true →
    ∃ a, read (ts ++ rest) = .ok (a, rest) ∧ means a = some b
  spells : ∀ {ts a b rest}, read ts = .ok (a, rest) → endsItem rest = true → means a = some b →
    ∃ front, ts = front ++ rest ∧ text front b

theorem Tree.exists_sign {c : Char} {u : Tree} (h : u.isSign c = true) :
    ∃ joint, u = .sign c joint := by
  cases u with
  | sign d joint => exact ⟨joint, by rw [eq_of_beq h]⟩
  | word | lifetime | string | literal | group => cases h

theorem endsItem_comma (joint : Bool) (rest : List Tree) :
    endsItem (.sign ',' joint :: rest) = true := rfl

section Lists

variable {α β : Type} {read : List Tree → Reads α} {means : α → Option β}
variable {text : List Tree → β → Prop} {ts : List Tree} {bs : List β}

/-- All of a list mean something, and this is what. -/
def AllMean (means : α → Option β) (as : List α) (bs : List β) : Prop :=
  List.Forall₂ (fun a b => means a = some b) as bs

theorem allMean_iff {as : List α} : AllMean means as bs ↔
    (∀ a ∈ as, (means a).isSome = true) ∧ bs = as.filterMap means := by
  induction as generalizing bs with
  | nil => simp [AllMean]
  | cons a as ih =>
    rw [AllMean, List.forall₂_cons_left_iff, List.forall_mem_cons]
    constructor
    · intro h
      obtain ⟨b, rest, one, others, rfl⟩ := h
      obtain ⟨all, rfl⟩ := ih.mp others
      rw [List.filterMap_cons_some one]
      exact ⟨⟨Option.isSome_of_eq_some one, all⟩, rfl⟩
    · intro h
      obtain ⟨⟨one, all⟩, rfl⟩ := h
      obtain ⟨b, one⟩ := Option.isSome_iff_exists.mp one
      rw [List.filterMap_cons_some one]
      exact ⟨b, _, one, ih.mpr ⟨all, rfl⟩, rfl⟩

/-- What is read as a list, all of whose items mean something, is a list of the grammar. -/
theorem commas_of_terminated (h : Reader.Accepts read means text) {as : List α}
    (ok : terminated read ts = .ok as) (mean : AllMean means as bs) : Commas text ts bs := by
  induction ts using terminated.induct read generalizing as bs with
  | case1 =>
    rw [terminated_nil] at ok
    cases ok
    cases mean
    exact .nil
  | case2 t ts e he =>
    rw [terminated, he] at ok
    cases ok
  | case3 t ts a ha =>
    rw [terminated_of_end ha] at ok
    cases ok
    obtain ⟨b, _, one, none, rfl⟩ := List.forall₂_cons_left_iff.mp mean
    cases none
    obtain ⟨front, same, item⟩ := h.spells ha rfl one
    rw [same, List.append_nil]
    exact .last item
  | case4 t ts a u rest ha other =>
    rw [terminated, ha] at ok
    simp only [other, if_true] at ok
    cases ok
  | case5 t ts a u rest ha comma shorter as' hrest ih =>
    obtain ⟨joint, rfl⟩ := Tree.exists_sign (by simpa using comma)
    rw [terminated_of_comma ha shorter, hrest] at ok
    cases ok
    obtain ⟨b, bs, one, others, rfl⟩ := List.forall₂_cons_left_iff.mp mean
    obtain ⟨front, same, item⟩ := h.spells ha (endsItem_comma joint rest) one
    rw [same]
    exact .more item (ih hrest others)
  | case6 t ts a u rest ha comma shorter e hrest ih =>
    obtain ⟨joint, rfl⟩ := Tree.exists_sign (by simpa using comma)
    rw [terminated_of_comma ha shorter, hrest] at ok
    cases ok
  | case7 t ts a u rest ha comma longer =>
    -- a reader that takes nothing reads no item of the grammar
    obtain ⟨joint, rfl⟩ := Tree.exists_sign (by simpa using comma)
    rw [terminated, ha] at ok
    simp only [comma, longer] at ok
    cases ok
    obtain ⟨b, _, one, -⟩ := List.forall₂_cons_left_iff.mp mean
    obtain ⟨front, same, -⟩ := h.spells ha (endsItem_comma joint rest) one
    rw [same, List.length_append, List.length_cons] at longer
    omega

/-- A list of the grammar is read as one, and its items mean what they are to. -/
theorem terminated_of_commas (h : Reader.Accepts read means text) (list : Commas text ts bs) :
    ∃ as, terminated read ts = .ok as ∧ AllMean means as bs := by
  induction list with
  | nil => exact ⟨[], terminated_nil read, .nil⟩
  | @last ts b item =>
    obtain ⟨a, ha, one⟩ := h.reads item (show endsItem [] = true from rfl)
    rw [List.append_nil] at ha
    cases ts with
    | nil => exact absurd rfl (h.filled item)
    | cons t ts => exact ⟨[a], terminated_of_end ha, .cons one .nil⟩
  | @more ts rest b bs joint item _ ih =>
    obtain ⟨a, ha, one⟩ := h.reads item (endsItem_comma joint rest)
    obtain ⟨as, hrest, others⟩ := ih
    have shorter : rest.length < (ts ++ .sign ',' joint :: rest).length := by
      rw [List.length_append, List.length_cons]
      omega
    refine ⟨a :: as, ?_, .cons one others⟩
    rw [terminated_of_comma ha shorter, hrest]
    rfl

/-- **A reader and a grammar that agree on items agree on lists of them.** -/
theorem terminated_iff_commas (h : Reader.Accepts read means text) :
    (∃ as, terminated read ts = .ok as ∧ AllMean means as bs) ↔ Commas text ts bs := by
  constructor
  · intro read
    obtain ⟨as, ok, mean⟩ := read
    exact commas_of_terminated h ok mean
  · exact terminated_of_commas h

end Lists

/-! ## 2. Names of items -/

/-- A name has words. -/
theorem readWords_ne_nil {first : Bool} {ts rest : List Tree} :
    readWords first ts ≠ .ok ([], rest) := by
  intro h
  unfold readWords at h
  repeat' split at h
  all_goals cases h

/-- What is read as one word is the word in front. -/
theorem eq_word_of_readWords {first : Bool} {ts rest : List Tree} {w : Word}
    (h : readWords first ts = .ok ([w], rest)) : ts = .word w :: rest := by
  unfold readWords at h
  split at h
  · split at h
    · cases h
      rfl
    · cases h
  · split at h
    · cases h
      rfl
    · cases h
  · split at h
    · cases h
    · split at h
      · split at h
        · next more =>
          cases h
          exact absurd more readWords_ne_nil
        · cases h
      · cases h
        rfl
  · cases h

/-- A word that no colon follows is read as one. -/
theorem readWords_word {first : Bool} {w : Word} {rest : List Tree} (named : isNameWord w = true)
    (behind : ∀ t ∈ rest.head?, t.isJoint ':' = false) :
    readWords first (.word w :: rest) = .ok ([w], rest) := by
  unfold readWords
  match rest with
  | [] => simp [named]
  | [t] => simp [named]
  | t :: u :: rest =>
    have apart : t.isJoint ':' = false := behind t rfl
    simp [named, apart]

theorem afterColons?_word (w : Word) (rest : List Tree) : afterColons? (.word w :: rest) = none := by
  cases rest with
  | nil => rfl
  | cons t rest => rfl

theorem readItemName_word {w : Word} {rest : List Tree} (named : isNameWord w = true)
    (behind : ∀ t ∈ rest.head?, t.isJoint ':' = false) :
    readItemName (.word w :: rest) = .ok (⟨false, [w]⟩, rest) := by
  unfold readItemName
  split
  · next same =>
    cases same
    rfl
  · rw [readName, afterColons?_word]
    dsimp only
    rw [readNameFrom, readWords_word named behind]

theorem eq_word_of_readItemName {ts rest : List Tree} {w : Word}
    (h : readItemName ts = .ok (⟨false, [w]⟩, rest)) : ts = .word w :: rest := by
  unfold readItemName at h
  split at h
  · cases h
    rfl
  · unfold readName readNameFrom at h
    split at h
    · split at h <;> cases h
    · split at h
      · next read =>
        cases h
        exact eq_word_of_readWords read
      · cases h

namespace Meta

variable {n : QualifiedName} {ts rest : List Tree}

/-- An item that begins with one word is what stands behind the word. -/
theorem read_word {w : Word} (named : isNameWord w = true)
    (behind : ∀ t ∈ rest.head?, t.isJoint ':' = false) :
    read (.word w :: rest) = readBehind ⟨false, [w]⟩ rest := by
  rw [read, readItemName_word named behind]

theorem not_joint_of_endsItem (ends : endsItem rest = true) :
    ∀ t ∈ rest.head?, t.isJoint ':' = false := by
  intro t ht
  cases rest with
  | nil => cases ht
  | cons u rest =>
    obtain ⟨joint, rfl⟩ := Tree.exists_sign ends
    cases ht
    rfl

theorem readBehind_of_endsItem (ends : endsItem rest = true) :
    readBehind n rest = .ok (.alone n, rest) := by
  cases rest with
  | nil => rfl
  | cons u rest =>
    obtain ⟨joint, rfl⟩ := Tree.exists_sign ends
    rfl

section Word

variable {w : Word} (named : isNameWord w = true)
include named

theorem read_alone (ends : endsItem rest = true) :
    read (.word w :: rest) = .ok (.alone ⟨false, [w]⟩, rest) := by
  rw [read_word named (not_joint_of_endsItem ends), readBehind_of_endsItem ends]

theorem read_list (b : Bracket) (arguments rest : List Tree) :
    read (.word w :: .group b arguments :: rest) = .ok (.list ⟨false, [w]⟩ b arguments, rest) := by
  rw [read_word named (by rintro t ⟨⟩; rfl), readBehind]

theorem read_string (joint : Bool) (s written : String) (ends : endsItem rest = true) :
    read (.word w :: .sign '=' joint :: .string s written :: rest) =
      .ok (.valued ⟨false, [w]⟩ (.string s), rest) := by
  rw [read_word named (by rintro t ⟨⟩; rfl), readBehind, if_pos rfl, readValue, if_pos ends]

end Word

/-- What is read behind a name, by the form that the item has. -/
theorem readBehind_cases {m : Meta} (h : readBehind n ts = .ok (m, rest)) :
    (m = .alone n ∧ ts = rest) ∨ (∃ b arguments, m = .list n b arguments ∧
      ts = .group b arguments :: rest) ∨
    ∃ value joint behind, m = .valued n value ∧ ts = .sign '=' joint :: behind ∧
      readValue behind = .ok (value, rest) := by
  unfold readBehind at h
  split at h
  · cases h
    exact .inr (.inl ⟨_, _, rfl, rfl⟩)
  · split at h
    · next equals =>
      subst equals
      split at h
      · next value rest' read =>
        cases h
        exact .inr (.inr ⟨value, _, _, rfl, rfl, read⟩)
      · cases h
    · cases h
      exact .inl ⟨rfl, rfl⟩
  · cases h
    exact .inl ⟨rfl, rfl⟩

/-- Only a text that ends its item is read as a text. -/
theorem eq_string_of_readValue {s : String} (h : readValue ts = .ok (.string s, rest)) :
    ∃ written, ts = .string s written :: rest := by
  unfold readValue at h
  split at h
  · split at h
    · cases h
      exact ⟨_, rfl⟩
    · next s' written behind _ =>
      cases hs : skipExpression .operator behind <;> rw [hs] at h <;> cases h
  · cases h
  · cases hs : skipExpression .operand ts <;> rw [hs] at h <;> cases h

/-- What is read as an item, with its name. -/
theorem exists_name_of_read {m : Meta} (h : read ts = .ok (m, rest)) :
    ∃ behind, readItemName ts = .ok (m.name, behind) ∧ readBehind m.name behind = .ok (m, rest) := by
  unfold read at h
  split at h
  · next name behind hname =>
    have same : m.name = name := by
      rcases readBehind_cases h with ⟨rfl, -⟩ | ⟨_, _, rfl, -⟩ | ⟨_, _, _, rfl, -⟩ <;> rfl
    rw [same]
    exact ⟨behind, hname, h⟩
  · cases h

/-- An item whose name is one word begins with it. -/
theorem exists_behind_of_read {m : Meta} {word : String} (h : read ts = .ok (m, rest))
    (named : m.name.is word = true) :
    ∃ behind, ts = .word (.plain word) :: behind ∧ readBehind m.name behind = .ok (m, rest) := by
  obtain ⟨behind, hname, hbehind⟩ := exists_name_of_read h
  rw [eq_of_beq named] at hname
  exact ⟨behind, eq_word_of_readItemName hname, hbehind⟩

section Named

variable {word : String} (named : n.is word = true)
include named

theorem eq_of_read_alone (h : read ts = .ok (.alone n, rest)) :
    ts = .word (.plain word) :: rest := by
  obtain ⟨behind, rfl, hbehind⟩ := exists_behind_of_read h named
  rcases readBehind_cases hbehind with ⟨-, rfl⟩ | ⟨_, _, other, -⟩ | ⟨_, _, _, other, -⟩
  · rfl
  · cases other
  · cases other

theorem eq_of_read_list {b : Bracket} {arguments : List Tree}
    (h : read ts = .ok (.list n b arguments, rest)) :
    ts = .word (.plain word) :: .group b arguments :: rest := by
  obtain ⟨behind, rfl, hbehind⟩ := exists_behind_of_read h named
  rcases readBehind_cases hbehind with ⟨other, -⟩ | ⟨_, _, same, rfl⟩ | ⟨_, _, _, other, -⟩
  · cases other
  · cases same
    rfl
  · cases other

theorem exists_of_read_string {s : String}
    (h : read ts = .ok (.valued n (.string s), rest)) : ∃ joint written,
      ts = .word (.plain word) :: .sign '=' joint :: .string s written :: rest := by
  obtain ⟨behind, rfl, hbehind⟩ := exists_behind_of_read h named
  rcases readBehind_cases hbehind with ⟨other, -⟩ | ⟨_, _, other, -⟩ | ⟨_, joint, _, same, rfl, value⟩
  · cases other
  · cases other
  · cases same
    obtain ⟨written, rfl⟩ := eq_string_of_readValue value
    exact ⟨joint, written, rfl⟩

end Named

end Meta

/-! ## 3. Items -/

/-- What an item asks of a field. -/
inductive FieldItem where
  /-- To leave it out. -/
  | skip
  /-- To expose it by a name. -/
  | rename (name : String)
  deriving DecidableEq, Repr

/-- `skip`, or `rename = "..."`. -/
inductive FieldItemText : List Tree → FieldItem → Prop where
  | skip : FieldItemText [.word (.plain "skip")] .skip
  | rename {joint : Bool} {name written : String} :
      FieldItemText [.word (.plain "rename"), .sign '=' joint, .string name written] (.rename name)

/-- What an item that was read asks of a field, if it means something there. -/
def Meta.fieldItem? : Meta → Option FieldItem
  | alone name => if name.is "skip" then some .skip else none
  | valued name (.string s) => if name.is "rename" then some (.rename s) else none
  | _ => none

/-- **The items of fields are read as their grammar has them.** -/
theorem accepts_fieldItem : Reader.Accepts Meta.read Meta.fieldItem? FieldItemText where
  filled := by
    intro ts b item
    cases item <;> exact List.cons_ne_nil _ _
  reads := by
    intro ts b rest item ends
    cases item with
    | skip =>
      exact ⟨.alone ⟨false, [.plain "skip"]⟩, Meta.read_alone rfl ends, rfl⟩
    | @rename joint name written =>
      exact ⟨.valued ⟨false, [.plain "rename"]⟩ (.string name),
        Meta.read_string rfl joint name written ends, rfl⟩
  spells := by
    intro ts m b rest read ends means
    cases m with
    | alone n =>
      obtain ⟨named, same⟩ := Option.ite_none_right_eq_some.mp means
      cases same
      exact ⟨[_], Meta.eq_of_read_alone named read, .skip⟩
    | list n b arguments => cases means
    | valued n value =>
      cases value with
      | expression => cases means
      | string s =>
        obtain ⟨named, same⟩ := Option.ite_none_right_eq_some.mp means
        cases same
        obtain ⟨joint, written, whole⟩ := Meta.exists_of_read_string named read
        exact ⟨[_, _, _], whole, .rename⟩

/-- An identifier. -/
inductive IdentifierText : List Tree → Word → Prop where
  | intro {w : Word} (identifier : w.isIdentifier = true) : IdentifierText [.word w] w

theorem accepts_identifier : Reader.Accepts readIdentifier some IdentifierText where
  filled := by
    intro ts w item
    cases item
    exact List.cons_ne_nil _ _
  reads := by
    intro ts w rest item _
    obtain ⟨identifier⟩ := item
    exact ⟨w, if_pos identifier, rfl⟩
  spells := by
    intro ts w w' rest read _ means
    cases means
    unfold readIdentifier at read
    split at read
    · split at read
      · cases read
        exact ⟨[_], rfl, .intro ‹_›⟩
      · cases read
    · cases read

/-- What an item asks of a declaration. -/
inductive OptionItem where
  /-- To show the object as its type shows it. -/
  | display
  /-- To expose methods by their own names. -/
  | methods (words : List Word)
  /-- To expose methods by the names of getters. -/
  | getters (words : List Word)
  deriving DecidableEq, Repr

/-- `display`, or `methods` or `getters` with a list of identifiers in brackets of a kind. -/
inductive OptionItemText (kind : Bracket → Prop) : List Tree → OptionItem → Prop where
  | display : OptionItemText kind [.word (.plain "display")] .display
  | methods {b : Bracket} {ts : List Tree} {ws : List Word} (bracket : kind b)
      (names : Commas IdentifierText ts ws) :
      OptionItemText kind [.word (.plain "methods"), .group b ts] (.methods ws)
  | getters {b : Bracket} {ts : List Tree} {ws : List Word} (bracket : kind b)
      (names : Commas IdentifierText ts ws) :
      OptionItemText kind [.word (.plain "getters"), .group b ts] (.getters ws)

/-- What an item that was read asks of a declaration, if it means something there. -/
def Meta.optionItem? : Meta → Option OptionItem
  | alone name => if name.is "display" then some .display else none
  | valued .. => none
  | list name _ arguments =>
    if name.is "methods" then (terminated readIdentifier arguments).toOption.map .methods
    else if name.is "getters" then (terminated readIdentifier arguments).toOption.map .getters
    else none

/-- A list of identifiers is read as one. -/
theorem terminated_readIdentifier_iff {ts : List Tree} {ws : List Word} :
    (terminated readIdentifier ts).toOption = some ws ↔ Commas IdentifierText ts ws := by
  rw [← terminated_iff_commas accepts_identifier]
  cases terminated readIdentifier ts with
  | error e => simp [Except.toOption]
  | ok as => simp [Except.toOption, allMean_iff, @eq_comm _ ws]

/-- Any kind of brackets. -/
def anyBracket : Bracket → Prop := fun _ => True

/-- **The items of declarations are read as their grammar has them**, in brackets of any kind. -/
theorem accepts_optionItem :
    Reader.Accepts Meta.read Meta.optionItem? (OptionItemText anyBracket) where
  filled := by
    intro ts b item
    cases item <;> exact List.cons_ne_nil _ _
  reads := by
    intro ts b rest item ends
    cases item with
    | display => exact ⟨.alone ⟨false, [.plain "display"]⟩, Meta.read_alone rfl ends, rfl⟩
    | @methods b ts ws _ names =>
      refine ⟨.list ⟨false, [.plain "methods"]⟩ b ts, Meta.read_list rfl b ts rest, ?_⟩
      show (terminated readIdentifier ts).toOption.map OptionItem.methods = _
      rw [terminated_readIdentifier_iff.mpr names]
      rfl
    | @getters b ts ws _ names =>
      refine ⟨.list ⟨false, [.plain "getters"]⟩ b ts, Meta.read_list rfl b ts rest, ?_⟩
      show (terminated readIdentifier ts).toOption.map OptionItem.getters = _
      rw [terminated_readIdentifier_iff.mpr names]
      rfl
  spells := by
    intro ts m a rest read ends means
    cases m with
    | alone n =>
      obtain ⟨named, same⟩ := Option.ite_none_right_eq_some.mp means
      cases same
      exact ⟨[_], Meta.eq_of_read_alone named read, .display⟩
    | list n b arguments =>
      rw [Meta.optionItem?] at means
      split at means
      · next named =>
        obtain ⟨ws, names, rfl⟩ := Option.map_eq_some_iff.mp means
        exact ⟨[_, _], Meta.eq_of_read_list named read,
          .methods trivial (terminated_readIdentifier_iff.mp names)⟩
      · obtain ⟨named, means⟩ := Option.ite_none_right_eq_some.mp means
        obtain ⟨ws, names, rfl⟩ := Option.map_eq_some_iff.mp means
        exact ⟨[_, _], Meta.eq_of_read_list named read,
          .getters trivial (terminated_readIdentifier_iff.mp names)⟩
    | valued n value => cases means

/-! ## 4. Attributes -/

/-- The attributes that steer are lists of a grammar of items in brackets of a kind, and these are all
their items in order. Other attributes are passed over. -/
inductive Steered {β : Type} (kind : Bracket → Prop) (text : List Tree → β → Prop) :
    List Meta → List β → Prop where
  | nil : Steered kind text [] []
  | other {m : Meta} {ms : List Meta} {bs : List β} (passed : m.steers = false)
      (others : Steered kind text ms bs) : Steered kind text (m :: ms) bs
  | line {name : QualifiedName} {b : Bracket} {ts : List Tree} {ms : List Meta} {items bs : List β}
      (steers : name.is "introspect" = true) (bracket : kind b) (list : Commas text ts items)
      (others : Steered kind text ms bs) :
      Steered kind text (.list name b ts :: ms) (items ++ bs)

/-- The attributes that steer can be read, and all their items mean something. -/
def Meaningful {β : Type} (means : Meta → Option β) (attributes : List Meta) : Prop :=
  ∀ m ∈ attributes, m.steers = true →
    ∃ items, m.items = .ok items ∧ ∀ item ∈ items, (means item).isSome = true

theorem Meta.items_list_eq_ok_iff {name : QualifiedName} {b : Bracket} {ts : List Tree}
    {items : List Meta} : (list name b ts).items = .ok items ↔ terminated read ts = .ok items := by
  rw [Meta.items]
  cases terminated read ts <;> simp [liftSyntax]

section Attributes

variable {β : Type} {means : Meta → Option β} {text : List Tree → β → Prop}

theorem meaningful_of_steered (h : Reader.Accepts Meta.read means text) {attributes : List Meta}
    {bs : List β} (steered : Steered anyBracket text attributes bs) :
    Meaningful means attributes ∧ bs = (steeringItems attributes).filterMap means := by
  induction steered with
  | nil => exact ⟨nofun, rfl⟩
  | other passed _ ih =>
    obtain ⟨all, rfl⟩ := ih
    have unsteered := Bool.eq_false_iff.mp passed
    rw [steeringItems_cons_of_passed unsteered]
    exact ⟨List.forall_mem_cons.mpr ⟨fun steers => absurd steers unsteered, all⟩, rfl⟩
  | @line name b ts _ ms _ steers _ list _ ih =>
    obtain ⟨all, rfl⟩ := ih
    obtain ⟨items, read, mean⟩ := (terminated_iff_commas h).mpr list
    obtain ⟨first, rfl⟩ := allMean_iff.mp mean
    have read : (Meta.list name b ts).items = .ok items := Meta.items_list_eq_ok_iff.mpr read
    have steers : (Meta.list name b ts).steers = true := steers
    rw [steeringItems_cons_of_items steers read, List.filterMap_append]
    exact ⟨List.forall_mem_cons.mpr ⟨fun _ => ⟨items, read, first⟩, all⟩, rfl⟩

theorem steered_of_meaningful (h : Reader.Accepts Meta.read means text) {attributes : List Meta}
    (meaningful : Meaningful means attributes) :
    Steered anyBracket text attributes ((steeringItems attributes).filterMap means) := by
  induction attributes with
  | nil => exact .nil
  | cons m ms ih =>
    obtain ⟨first, all⟩ := List.forall_mem_cons.mp meaningful
    have others := ih all
    by_cases steers : m.steers = true
    · obtain ⟨items, read, some⟩ := first steers
      rw [steeringItems_cons_of_items steers read, List.filterMap_append]
      cases m with
      | alone | valued => cases read
      | list name b ts =>
        have list : Commas text ts (items.filterMap means) := (terminated_iff_commas h).mp
          ⟨items, Meta.items_list_eq_ok_iff.mp read, allMean_iff.mpr ⟨some, rfl⟩⟩
        exact .line steers trivial list others
    · rw [steeringItems_cons_of_passed steers]
      exact .other (Bool.eq_false_iff.mpr steers) others

/-- **A reader and a grammar that agree on items agree on rows of attributes.** -/
theorem steered_iff (h : Reader.Accepts Meta.read means text) {attributes : List Meta} {bs : List β} :
    Steered anyBracket text attributes bs ↔
      Meaningful means attributes ∧ bs = (steeringItems attributes).filterMap means := by
  constructor
  · exact meaningful_of_steered h
  · intro both
    obtain ⟨meaningful, rfl⟩ := both
    exact steered_of_meaningful h meaningful

end Attributes

end Stencil.Derive
